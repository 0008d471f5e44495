import AmusementPark.Library.Since
import AmusementPark.Rounds.Timeouts
import AmusementPark.WakeUps.CashierAndRestaurant

/-! # Nobody sleeps through the closing

`HandleSigint` and `pCloseImpl` of the manager close the park and then post one
token on every loop semaphore. A worker that has been asleep takes it and looks
at the closed park; so it sleeps again only for those who are still to leave.
The restaurant computes its timeout when it looks, from the clock of that moment.
-/
namespace AmusementPark
open Library Worker

namespace Worker.Mailbox
variable {μ C : Type*} [DecidableEq C]

/-- Nobody but the worker takes its tokens or its messages. -/
theorem step_grows {m n : Mailbox μ C} {a : MailboxAction μ C} (h : m.step a = some n) :
    m.eventSemaphore ≤ n.eventSemaphore ∧ (m.queue ≠ [] → n.queue ≠ []) := by
  cases a with
  | send c priority msg =>
    simp only [step, Option.ite_none_right_eq_some, Option.some.injEq] at h
    obtain ⟨-, rfl⟩ := h
    refine ⟨le_rfl, fun _ => List.ne_nil_of_length_pos ?_⟩
    rw [enqueue_length]
    exact Nat.succ_pos _
  | sendFails c =>
    simp only [step, Option.ite_none_right_eq_some, Option.some.injEq] at h
    obtain ⟨-, rfl⟩ := h
    exact ⟨le_rfl, id⟩
  | signal c =>
    simp only [step, Option.ite_none_left_eq_some, Option.some.injEq] at h
    obtain ⟨-, rfl⟩ := h
    exact ⟨Nat.le_succ _, id⟩
  | post =>
    obtain rfl := Option.some.inj h
    exact ⟨Nat.le_succ _, id⟩

end Worker.Mailbox

theorem Worker.AttractionHandler.releaseClients_finishTime (h : AttractionHandler) :
    h.releaseClients.1.finishTime = h.finishTime := by
  unfold releaseClients
  split <;> rfl

namespace Attraction.AttractionSystem
variable {C : Type*} [DecidableEq C]

/-- The manager opens the loop semaphore of the closed park. -/
def closingPost (s : AttractionSystem C) : AttractionAction C → Bool
  | .mailbox .post => !s.isOpen
  | _ => false

/-- `Wait` would block. -/
def Asleep (s : AttractionSystem C) : Prop :=
  (∃ timeout, s.point = .waiting timeout) ∧ s.mailbox.eventSemaphore = 0

/-- The park is closed, and a waiting attraction has a token. -/
structure Roused (s : AttractionSystem C) : Prop where
  closed : s.isOpen = false
  token : ∀ timeout, s.point = .waiting timeout → 0 < s.mailbox.eventSemaphore

omit [DecidableEq C] in
theorem logging_cases (s t : AttractionSystem C) (logged : Except Exn Unit) :
    s.logging logged t = t ∨ s.logging logged t = { s with point := .stopped } := by
  cases logged with
  | ok u => exact .inl rfl
  | error e => exact .inr rfl

/-- Only an open park makes an attraction wait anew. -/
theorem waiting_of_step {cfg : AttractionConfig} {s t : AttractionSystem C}
    {a : AttractionAction C} {timeout : ℤ} (hclosed : s.isOpen = false)
    (h : step cfg s a = some t) (ht : t.point = .waiting timeout) :
    s.point = .waiting timeout ∧ s.mailbox.eventSemaphore ≤ t.mailbox.eventSemaphore := by
  cases a with
  | mailbox a =>
    obtain ⟨m, hm, rfl⟩ := Option.map_eq_some_iff.mp h
    exact ⟨ht, (Mailbox.step_grows hm).1⟩
  | closePark =>
    obtain rfl := Option.some.inj h
    exact ⟨ht, le_rfl⟩
  | sigUsr1 logged | sigUsr2 logged =>
    obtain rfl := Option.some.inj h
    cases logged with
    | error e => cases ht
    | ok u => exact ⟨ht, le_rfl⟩
  | check now =>
    simp only [step, Option.ite_none_right_eq_some, Option.some.injEq, hclosed] at h
    obtain ⟨-, rfl⟩ := h
    cases ht
  | announce logged => grind [step, logging_cases]
  | registerThrows paused caught =>
    obtain ⟨id, newHandler, message, rest, hpoint, -, rfl⟩ := registerThrows_step h
    grind [logging_cases]
  | _ => grind [step, fill, Mailbox.take]

theorem isOpen_of_step {cfg : AttractionConfig} {s t : AttractionSystem C}
    {a : AttractionAction C} (h : step cfg s a = some t) (hclosed : s.isOpen = false) :
    t.isOpen = false := by
  cases a <;> grind [step, fill, logging_cases, Option.map_eq_some_iff]

theorem Roused.step {cfg : AttractionConfig} {s t : AttractionSystem C} {a : AttractionAction C}
    (hs : s.Roused) (h : step cfg s a = some t) : t.Roused := by
  refine ⟨isOpen_of_step h hs.closed, fun timeout ht => ?_⟩
  obtain ⟨hpoint, htokens⟩ := waiting_of_step hs.closed h ht
  exact (hs.token timeout hpoint).trans_le htokens

theorem roused_of_closingPost {cfg : AttractionConfig} {s t : AttractionSystem C}
    {a : AttractionAction C} (ha : s.closingPost a = true) (h : step cfg s a = some t) :
    t.Roused := by
  unfold closingPost at ha
  split at ha
  · rw [Bool.not_eq_true'] at ha
    obtain rfl := Option.some.inj h
    exact ⟨ha, fun _ _ => Nat.succ_pos _⟩
  · cases ha

theorem roused_since (cfg : AttractionConfig) (s : AttractionSystem C)
    (as : List (AttractionAction C)) :
    ((machine C cfg).since closingPost).Always (fun x => x.2 = true → x.1.Roused)
      (s, false) as := by
  apply Machine.always_since
  · exact fun _ _ _ ha h => roused_of_closingPost ha h
  · exact fun _ _ _ hs h => Roused.step hs h

end Attraction.AttractionSystem

namespace Restaurant.RestaurantSystem
variable {C : Type*} [DecidableEq C]

/-- The manager opens the loop semaphore of the closed park. -/
def closingPost (s : RestaurantSystem C) : RestaurantAction C → Bool
  | .mailbox .post => !s.isOpen
  | _ => false

/-- `Wait` would block. -/
def Asleep (s : RestaurantSystem C) : Prop :=
  (∃ timeout, s.point = .waiting timeout) ∧ s.mailbox.eventSemaphore = 0

/-- The clock that the step reads at the head of the loop. -/
def checkTime : RestaurantAction C → Option ℤ
  | .check now => some now
  | _ => none

/-- The restaurant with the time of its last look at the clock. -/
def clockedMachine (C : Type*) [DecidableEq C] (cfg : AttractionConfig) :
    Machine (RestaurantSystem C × ℤ) (RestaurantAction C) :=
  (machine C cfg).observe fun clock _ a _ => (checkTime a).getD clock

/-- Somebody is still inside, and the timeout is what was left of the current round at `clock`. -/
def AwaitsRound (s : RestaurantSystem C) (timeout clock : ℤ) : Prop :=
  ∃ h, s.proc.handler = some h ∧ h.isEmpty = false ∧ timeout = h.finishTime - clock

/-- A restaurant that sleeps in the closed park has guests inside. Its wait ends with their round,
unless it last looked at the clock one second after that, when the timeout is -1 and means none.
The sender of every queued message is about to signal. -/
structure WaitsForGuests [Fintype C] (s : RestaurantSystem C) (clock : ℤ) : Prop where
  round : ∃ h, s.proc.handler = some h ∧ h.isEmpty = false ∧
    s.point = .waiting (h.finishTime - clock) ∧
    (EndsBy (.eventWait MainSemaphoreArray.restaurantEvent (h.finishTime - clock)) h.finishTime
      clock ∨ OneSecondLate h.finishTime clock)
  queued : s.mailbox.queue.length ≤ s.mailbox.unsignalled

/-- The park is closed, and the restaurant waits for a token that is there or for its guests. -/
structure Roused (x : RestaurantSystem C × ℤ) : Prop where
  closed : x.1.isOpen = false
  token : ∀ timeout, x.1.point = .waiting timeout →
    0 < x.1.mailbox.eventSemaphore ∨ x.1.AwaitsRound timeout x.2

omit [DecidableEq C] in
theorem logging_cases (s t : RestaurantSystem C) (logged : Except Exn Unit) :
    s.logging logged t = t ∨ s.logging logged t = { s with point := .stopped } := by
  cases logged with
  | ok u => exact .inl rfl
  | error e => exact .inr rfl

/-- A new wait in the closed park is one for guests, and nothing sends them away during it. -/
theorem waiting_of_step {cfg : AttractionConfig} {s t : RestaurantSystem C}
    {a : RestaurantAction C} {timeout : ℤ} (clock : ℤ) (hclosed : s.isOpen = false)
    (h : step cfg s a = some t) (ht : t.point = .waiting timeout) :
    t.AwaitsRound timeout ((checkTime a).getD clock) ∨
      s.point = .waiting timeout ∧ ¬ s.AwaitsRound timeout clock ∧
        s.mailbox.eventSemaphore ≤ t.mailbox.eventSemaphore := by
  cases a with
  | mailbox a =>
    obtain ⟨m, hm, rfl⟩ := Option.map_eq_some_iff.mp h
    by_cases hround : s.AwaitsRound timeout clock
    · exact .inl hround
    · exact .inr ⟨ht, hround, (Mailbox.step_grows hm).1⟩
  | closePark | sigInt =>
    obtain rfl := Option.some.inj h
    exact (em _).imp_right fun hround => ⟨ht, hround, le_rfl⟩
  | sigUsr2 logged =>
    obtain rfl := Option.some.inj h
    cases logged with
    | error e => cases ht
    | ok u => exact (em _).imp_right fun hround => ⟨ht, hround, le_rfl⟩
  | sigUsr1 logged =>
    obtain rfl := Option.some.inj h
    cases logged with
    | error e => cases ht
    | ok u =>
      refine (em (s.AwaitsRound timeout clock)).imp (fun hround => ?_)
        fun hround => ⟨ht, hround, le_rfl⟩
      obtain ⟨handler, hhandler, hempty, htimeout⟩ := hround
      refine ⟨handler.releaseClients.1, ?_, ?_, ?_⟩
      · simp [logging, RestaurantProc.closeAttraction, hhandler]
      · simpa [AttractionHandler.isEmpty] using hempty
      · rw [htimeout, AttractionHandler.releaseClients_finishTime]
        rfl
  | check now =>
    simp only [step, Option.ite_none_right_eq_some, Option.some.injEq] at h
    obtain ⟨-, rfl⟩ := h
    left
    cases hhandler : s.proc.handler with
    | none => simp [continues, hclosed, hhandler] at ht
    | some handler =>
      cases hempty : handler.isEmpty with
      | true => simp [continues, hclosed, hhandler, hempty] at ht
      | false =>
        simp [continues, hclosed, hhandler, hempty, RestaurantProc.pGetNextTimeout] at ht
        exact ⟨handler, hhandler, hempty, ht.symm⟩
  | announce logged => grind [step, logging_cases]
  | handleThrows paused x =>
    obtain ⟨token, msg, m, hpoint, hreceive, -, u, hu, rfl⟩ := handle_of_handleThrows h
    simp only [step, hpoint, hreceive, Option.some.injEq] at hu
    subst hu
    cases ht
  | registerThrows paused caught =>
    obtain ⟨newHandler, message, rest, hpoint, -, rfl⟩ := registerThrows_step h
    grind [logging_cases]
  | _ => grind [step, fill, Mailbox.take]

theorem isOpen_of_step {cfg : AttractionConfig} {s t : RestaurantSystem C}
    {a : RestaurantAction C} (h : step cfg s a = some t) (hclosed : s.isOpen = false) :
    t.isOpen = false := by
  cases a <;> grind [step, fill, logging_cases, Option.map_eq_some_iff]

theorem Roused.step {cfg : AttractionConfig} {x y : RestaurantSystem C × ℤ}
    {a : RestaurantAction C} (hx : Roused x) (h : (clockedMachine C cfg).step x a = some y) :
    Roused y := by
  obtain ⟨hstep, hclock⟩ := Machine.observe_step.mp h
  refine ⟨isOpen_of_step hstep hx.closed, fun timeout ht => ?_⟩
  rw [← hclock]
  obtain hround | ⟨hpoint, hround, htokens⟩ := waiting_of_step x.2 hx.closed hstep ht
  · exact .inr hround
  · exact .inl (((hx.token timeout hpoint).resolve_right hround).trans_le htokens)

theorem roused_of_closingPost {cfg : AttractionConfig} {x y : RestaurantSystem C × ℤ}
    {a : RestaurantAction C} (ha : x.1.closingPost a = true)
    (h : (clockedMachine C cfg).step x a = some y) : Roused y := by
  obtain ⟨hstep, -⟩ := Machine.observe_step.mp h
  unfold closingPost at ha
  split at ha
  · rw [Bool.not_eq_true'] at ha
    have hpost := Option.some.inj hstep
    refine ⟨by rw [← hpost]; exact ha, fun _ _ => .inl ?_⟩
    rw [← hpost]
    exact Nat.succ_pos _
  · cases ha

theorem roused_since (cfg : AttractionConfig) (x : RestaurantSystem C × ℤ)
    (as : List (RestaurantAction C)) :
    ((clockedMachine C cfg).since fun x => x.1.closingPost).Always
      (fun y => y.2 = true → Roused y.1) (x, false) as := by
  apply Machine.always_since
  · exact fun _ _ _ ha h => roused_of_closingPost ha h
  · exact fun _ _ _ hx h => Roused.step hx h

/-- As in every run, no message is stranded while no token is in hand. -/
theorem noneStranded_since [Fintype C] (cfg : AttractionConfig) (tokens : ℕ) (clock : ℤ)
    (as : List (RestaurantAction C)) :
    ((clockedMachine C cfg).since fun x => x.1.closingPost).Always
      (fun y => y.1.1.point.hand = some false → y.1.1.mailbox.NoneStranded)
      ((init tokens, clock), false) as := by
  refine noneStranded_of_tokenStep (fun x a y _ h => ?_) rfl
    (Machine.meets_of_forall (fun _ _ => trivial) _ as)
  exact step_token (Machine.observe_step.mp (Machine.since_step.mp h).1).1

omit [DecidableEq C] in
theorem Roused.waitsForGuests [Fintype C] {x : RestaurantSystem C × ℤ} (hx : Roused x)
    (hcovered : x.1.point.hand = some false → x.1.mailbox.NoneStranded) (hasleep : x.1.Asleep) :
    x.1.WaitsForGuests x.2 := by
  obtain ⟨⟨timeout, hpoint⟩, hzero⟩ := hasleep
  obtain ⟨h, hhandler, hguests, rfl⟩ := (hx.token timeout hpoint).resolve_left hzero.not_gt
  refine ⟨⟨h, hhandler, hguests, hpoint, ?_⟩, ?_⟩
  · exact or_iff_not_imp_right.mpr (eventWait_endsBy_iff _ _ _).mpr
  · have hnone : x.1.mailbox.NoneStranded := hcovered (by rw [hpoint]; rfl)
    unfold Mailbox.NoneStranded at hnone
    omega

end Restaurant.RestaurantSystem

namespace Cashier

/-- A closed park answers every entry request, with a refusal. -/
theorem CashierProc.pRegisterClient_closed (parkSize : ℕ) (message : RegisterMQMessage)
    (x : ReplyOutcome) (c : CashierProc) :
    (pRegisterClient false parkSize message x c).1 ≠ .ok false ∧
      (pRegisterClient false parkSize message x c).2 = c := by
  constructor
  · unfold pRegisterClient
    cases message.content with
    | exitPark content => cases x.caught <;> simp [Except.map]
    | enterPark content =>
      rcases x.permitHandshake false with e | _ | _
      · cases x.caught <;> simp [Except.map]
      · simp
      · simp
  · obtain ⟨-, -, hopen, -⟩ | ⟨-, hkeep⟩ := pRegisterClient_state false parkSize message x c
    · cases hopen
    · exact hkeep

namespace CashierSystem
variable {C : Type*} [DecidableEq C]

/-- The manager opens the loop semaphore of the closed park. -/
def closingPost (s : CashierSystem C) : CashierAction C → Bool
  | .mailbox .post => !s.isOpen
  | _ => false

/-- `Wait` would block. -/
def Asleep (s : CashierSystem C) : Prop := s.point = .waiting ∧ s.mailbox.eventSemaphore = 0

/-- No request for entry waits, or the cashier will still look at all of them. -/
def Flushes (s : CashierSystem C) : Prop :=
  s.proc.enterVipQueue = [] ∧ s.proc.enterQueue = [] ∨ 0 < s.mailbox.eventSemaphore ∨
    match s.point with
    | .stopped | .woken true | .vipLoop => True
    | .ordinaryLoop => s.proc.enterVipQueue = []
    | _ => False

/-- Somebody is registered, or a message is queued. -/
def Expects (s : CashierSystem C) : Prop :=
  s.proc.terminated = false ∧ (s.proc.clients.entries ≠ [] ∨ s.mailbox.queue ≠ [])

/-- The park is closed, and the cashier waits for a token that is there or for somebody. -/
structure Roused (s : CashierSystem C) : Prop where
  closed : s.isOpen = false
  flushes : s.Flushes
  token : s.point = .waiting → 0 < s.mailbox.eventSemaphore ∨ s.Expects

omit [DecidableEq C] in
/-- A round of an inner loop ends the process or erases the head of its queue. -/
theorem serve_closed {s : CashierSystem C} (hclosed : s.isOpen = false) (parkSize : ℕ)
    (message : RegisterMQMessage) (x : ReplyOutcome) (erase : CashierProc → CashierProc)
    (done : RunPoint) :
    s.serve parkSize message x erase done = { s with point := .stopped } ∨
      s.serve parkSize message x erase done = { s with proc := erase s.proc } := by
  obtain ⟨hnotFalse, hkeep⟩ := CashierProc.pRegisterClient_closed parkSize message x s.proc
  unfold serve
  rw [hclosed]
  dsimp only
  rw [hkeep]
  split
  · exact .inl rfl
  · exact absurd ‹_› hnotFalse
  · exact .inr rfl

theorem isOpen_of_step {parkSize : ℕ} {s t : CashierSystem C} {a : CashierAction C}
    (h : step parkSize s a = some t) (hclosed : s.isOpen = false) : t.isOpen = false := by
  cases a with
  | sigTerm logged | log logged =>
    cases logged with
    | error e => grind [step]
    | ok u =>
      cases u
      grind [step]
  | _ => grind [step, serve_closed, Option.map_eq_some_iff]

/-- In the closed park an iteration with a token leaves no request for entry behind. -/
theorem flushes_of_step {parkSize : ℕ} {s t : CashierSystem C} {a : CashierAction C}
    (hclosed : s.isOpen = false) (hs : s.Flushes) (h : step parkSize s a = some t) :
    t.Flushes := by
  cases a with
  | mailbox a =>
    obtain ⟨m, hm, rfl⟩ := Option.map_eq_some_iff.mp h
    have htokens := (Mailbox.step_grows hm).1
    grind [Flushes]
  | closePark =>
    obtain rfl := Option.some.inj h
    exact hs
  | sigTerm logged | log logged =>
    cases logged with
    | error e => grind [step, Flushes]
    | ok u =>
      cases u
      grind [step, Flushes, CashierProc.handleSigTerm]
  | handle x =>
    cases hpoint : s.point with
    | woken token =>
      rcases hreceive : s.mailbox.receive with ⟨_ | msg, m⟩
      all_goals
        simp only [step, hpoint, hreceive, Option.some.injEq] at h
        exact h ▸ .inr (.inr trivial)
    | _ => simp [step, hpoint] at h
  | serveOrdinary x =>
    simp only [step, Option.ite_none_right_eq_some] at h
    obtain ⟨hpoint, h⟩ := h
    cases hvip : s.proc.enterVipQueue with
    | cons v vs =>
      simp only [hvip, Option.some.injEq] at h
      grind [Flushes]
    | nil => cases hq : s.proc.enterQueue with
      | nil =>
        simp only [hvip, hq, Option.some.injEq] at h
        exact h ▸ .inl ⟨hvip, hq⟩
      | cons message rest =>
        simp only [hvip, hq, Option.some.injEq] at h
        grind [serve_closed, Flushes]
  | _ => grind [step, serve_closed, Mailbox.take, Flushes]

/-- A new wait in the closed park is one for somebody, and nothing but a token changes that. -/
theorem waiting_of_step {parkSize : ℕ} {s t : CashierSystem C} {a : CashierAction C}
    (hclosed : s.isOpen = false) (h : step parkSize s a = some t) (ht : t.point = .waiting) :
    0 < t.mailbox.eventSemaphore ∨ t.Expects ∨
      s.point = .waiting ∧ ¬ s.Expects ∧ s.mailbox.eventSemaphore ≤ t.mailbox.eventSemaphore := by
  cases a with
  | mailbox a =>
    obtain ⟨m, hm, rfl⟩ := Option.map_eq_some_iff.mp h
    obtain ⟨htokens, hqueue⟩ := Mailbox.step_grows hm
    right
    refine (em s.Expects).imp (fun hs => ?_) fun hs => ⟨ht, hs, htokens⟩
    exact ⟨hs.1, hs.2.imp_right hqueue⟩
  | closePark =>
    obtain rfl := Option.some.inj h
    exact .inr ((em _).imp_right fun hs => ⟨ht, hs, le_rfl⟩)
  | sigTerm logged =>
    simp only [step, hclosed, Bool.false_eq_true, if_false] at h
    cases logged with
    | error e =>
      obtain rfl := Option.some.inj h
      cases ht
    | ok u =>
      obtain rfl := Option.some.inj h
      exact .inl (Nat.succ_pos _)
  | check =>
    simp only [step, Option.ite_none_right_eq_some, Option.some.injEq] at h
    obtain ⟨-, rfl⟩ := h
    cases hcontinues : s.continues with
    | false => simp [hcontinues] at ht
    | true =>
      simp only [continues, hclosed, Bool.false_or, Bool.and_eq_true, Bool.or_eq_true,
        Bool.not_eq_true', List.isEmpty_eq_false_iff] at hcontinues
      exact .inr (.inl ⟨hcontinues.2, hcontinues.1⟩)
  | log logged =>
    cases logged with
    | error e => grind [step]
    | ok u =>
      cases u
      grind [step]
  | _ => grind [step, serve_closed, Mailbox.take]

theorem Roused.step {parkSize : ℕ} {s t : CashierSystem C} {a : CashierAction C}
    (hs : s.Roused) (h : step parkSize s a = some t) : t.Roused := by
  refine ⟨isOpen_of_step h hs.closed, flushes_of_step hs.closed hs.flushes h, fun ht => ?_⟩
  obtain htoken | hexpects | ⟨hpoint, hexpects, htokens⟩ := waiting_of_step hs.closed h ht
  · exact .inl htoken
  · exact .inr hexpects
  · exact .inl (((hs.token hpoint).resolve_right hexpects).trans_le htokens)

theorem roused_of_closingPost {parkSize : ℕ} {s t : CashierSystem C} {a : CashierAction C}
    (ha : s.closingPost a = true) (h : step parkSize s a = some t) : t.Roused := by
  unfold closingPost at ha
  split at ha
  · rw [Bool.not_eq_true'] at ha
    obtain rfl := Option.some.inj h
    exact ⟨ha, .inr (.inl (Nat.succ_pos _)), fun _ => .inl (Nat.succ_pos _)⟩
  · cases ha

/-- A cashier that sleeps in the closed park has not handled a `SIGTERM` past its log message, has
answered all requests for entry, and waits for the registered clients or for senders who are about
to signal. -/
structure WaitsForLeaving [Fintype C] (s : CashierSystem C) : Prop where
  running : s.proc.terminated = false
  vip : s.proc.enterVipQueue = []
  ordinary : s.proc.enterQueue = []
  expected : s.proc.clients ≠ ∅ ∨ 0 < s.mailbox.unsignalled
  queued : s.mailbox.queue.length ≤ s.mailbox.unsignalled

theorem roused_since (parkSize : ℕ) (s : CashierSystem C) (as : List (CashierAction C)) :
    ((machine C parkSize).since closingPost).Always (fun x => x.2 = true → x.1.Roused)
      (s, false) as := by
  apply Machine.always_since
  · exact fun _ _ _ ha h => roused_of_closingPost ha h
  · exact fun _ _ _ hs h => Roused.step hs h

/-- As in every run, no message is stranded while no token is in hand. -/
theorem noneStranded_since [Fintype C] (parkSize tokens : ℕ) (as : List (CashierAction C)) :
    ((machine C parkSize).since closingPost).Always
      (fun x => x.1.point.hand = some false → x.1.mailbox.NoneStranded)
      (init tokens, false) as := by
  refine noneStranded_of_tokenStep (fun x a y _ h => ?_) rfl
    (Machine.meets_of_forall (fun _ _ => trivial) _ as)
  exact step_token (Machine.since_step.mp h).1

omit [DecidableEq C] in
theorem Roused.waitsForLeaving [Fintype C] {s : CashierSystem C} (hs : s.Roused)
    (hcovered : s.point.hand = some false → s.mailbox.NoneStranded) (hasleep : s.Asleep) :
    s.WaitsForLeaving := by
  obtain ⟨hpoint, hzero⟩ := hasleep
  obtain ⟨hrunning, hexpected⟩ := (hs.token hpoint).resolve_left hzero.not_gt
  have hnone : s.mailbox.NoneStranded := hcovered (by rw [hpoint]; rfl)
  unfold Mailbox.NoneStranded at hnone
  have hflushed : s.proc.enterVipQueue = [] ∧ s.proc.enterQueue = [] := by
    refine hs.flushes.resolve_right ?_
    rw [hpoint, hzero]
    simp
  refine ⟨hrunning, hflushed.1, hflushed.2, hexpected.imp ?_ fun hqueue => ?_, by omega⟩
  · rintro hclients hempty
    exact hclients (by rw [hempty]; rfl)
  · have := List.length_pos_iff.mpr hqueue
    omega

end CashierSystem
end Cashier

section
variable (C : Type*) [Fintype C] [DecidableEq C]

/-- In every run of an attraction, of the restaurant and of the cashier, from the moment on at
which the manager has opened the loop semaphores of the closed park: the attraction never sleeps,
the restaurant sleeps only with guests inside, and until their round ends unless it has looked at
the clock a second too late, and the cashier only for those who are still to leave. -/
theorem awakenedByClosing (attractionID tokens parkSize : ℕ) (clock : ℤ)
    (cfg table : AttractionConfig) (as : List (Attraction.AttractionAction C))
    (bs : List (Restaurant.RestaurantAction C)) (cs : List (Cashier.CashierAction C)) :
    ((Attraction.AttractionSystem.machine C cfg).since
        Attraction.AttractionSystem.closingPost).Always
        (fun x => x.2 = true → ¬ x.1.Asleep) (.init attractionID cfg tokens, false) as ∧
      ((Restaurant.RestaurantSystem.clockedMachine C table).since fun x => x.1.closingPost).Always
        (fun y => y.2 = true → y.1.1.Asleep → y.1.1.WaitsForGuests y.1.2)
        ((.init tokens, clock), false) bs ∧
      ((Cashier.CashierSystem.machine C parkSize).since
        Cashier.CashierSystem.closingPost).Always
        (fun x => x.2 = true → x.1.Asleep → x.1.WaitsForLeaving) (.init tokens, false) cs := by
  refine ⟨?_, ?_, ?_⟩
  · refine (Attraction.AttractionSystem.roused_since cfg _ as).mono fun x hx hposted => ?_
    rintro ⟨⟨timeout, hpoint⟩, hzero⟩
    exact hzero.not_gt ((hx hposted).token timeout hpoint)
  · refine ((Restaurant.RestaurantSystem.roused_since table _ bs).and
      (Restaurant.RestaurantSystem.noneStranded_since table tokens clock bs)).mono ?_
    rintro y ⟨hy, hcovered⟩ hposted
    exact (hy hposted).waitsForGuests hcovered
  · refine ((Cashier.CashierSystem.roused_since parkSize _ cs).and
      (Cashier.CashierSystem.noneStranded_since parkSize tokens cs)).mono ?_
    rintro x ⟨hx, hcovered⟩ hposted
    exact (hx hposted).waitsForLeaving hcovered

end

/-- A client is admitted, the park closes, and the cashier sleeps until the client leaves. -/
example : let entry : RegisterMQMessage := ⟨7, .enterPark, .enterPark ⟨false, false, .h2⟩⟩
    let x : ReplyOutcome := .faultless 7 0
    let idle : List (Cashier.CashierAction Unit) :=
      [.serveVip x, .serveOrdinary x, .log (.ok ()), .check]
    (((Cashier.CashierSystem.machine Unit 2).since Cashier.CashierSystem.closingPost).exec
        (.init 0, false)
        ([.mailbox (.send () 0 entry), .mailbox (.signal ()), .check, .wake true, .handle x,
          .serveVip x, .serveOrdinary x] ++ idle.tail ++ [.closePark, .mailbox .post,
          .wake true, .handle x] ++ idle)).map
      (fun s => (s.2, s.1.point, s.1.mailbox.eventSemaphore, s.1.proc.clients.keys)) =
      some (true, .waiting, 0, [7]) := by decide

end AmusementPark
