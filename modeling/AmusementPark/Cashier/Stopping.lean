import AmusementPark.Cashier.Bookkeeping
import AmusementPark.Cashier.QueueDiscipline

/-! # Nobody is left unanswered when the cashier stops

The loop condition looks at the registered clients and at the register queue,
not at the two queues of waiting requests. A request that stays waiting at the
end of an iteration did not fit into the open park. The park was nearly full
then, so somebody is registered and the loop goes on.
-/
namespace AmusementPark.Cashier
open Library Worker

namespace CashierSystem
variable {C : Type*}

/-- `Run` returns at its loop condition, and not because of `SIGTERM`. -/
def Returns (s : CashierSystem C) : Prop :=
  s.point = .loopHead ∧ s.continues = false ∧ s.proc.terminated = false

/-- Everybody is answered: no client is registered, no request waits, and the handled requests
of each class are the received ones. -/
def AllAnswered (p : CashierSystem C × QueueHistory) : Prop :=
  p.1.proc.clients = ∅ ∧ p.1.proc.enterVipQueue = [] ∧ p.1.proc.enterQueue = [] ∧
    ∀ vip, p.2.handled vip = p.2.received vip

/-- A waiting request means that somebody is registered, from the moment on at which the inner
loop of its class has been left. -/
structure WaitsForRegistered (s : CashierSystem C) : Prop where
  vip : s.point.settled = true ∨ s.point = .ordinaryLoop → s.proc.enterVipQueue ≠ [] →
    s.proc.clients ≠ ∅
  ordinary : s.point.settled = true → s.proc.enterQueue ≠ [] → s.proc.clients ≠ ∅

/-- A park that has no room for a party of at most two is not empty. -/
theorem clients_ne_of_full {parkSize : ℕ} (hsize : 2 ≤ parkSize) {c : CashierProc}
    (hc : c.CounterExact) {hasChild : Bool}
    (hfull : (parkSize : ℤ) < c.clientCounter + partySize hasChild) : c.clients ≠ ∅ := by
  intro hempty
  have hzero := hc.2 hempty
  have hparty : partySize hasChild ≤ 2 := by
    have := Bool.toNat_le hasChild
    unfold partySize
    omega
  omega

/-- `pRegisterClient` returns false only for a request that does not fit, and changes nothing
then. -/
theorem full_of_refused {isOpen : Bool} {parkSize : ℕ} {message : RegisterMQMessage}
    {x : ReplyOutcome} {c : CashierProc}
    (h : (CashierProc.pRegisterClient isOpen parkSize message x c).1 = .ok false) :
    (CashierProc.pRegisterClient isOpen parkSize message x c).2 = c ∧
      ∃ hasChild, (parkSize : ℤ) < c.clientCounter + partySize hasChild := by
  unfold CashierProc.pRegisterClient at h ⊢
  cases hcontent : message.content with
  | exitPark content =>
    rw [hcontent] at h
    dsimp only at h
    cases hcaught : x.caught <;> simp [hcaught, Except.map] at h
  | enterPark content =>
    rw [hcontent] at h
    dsimp only at h ⊢
    by_cases hfull : (parkSize : ℤ) < c.clientCounter + partySize content.hasChild ∧
        isOpen = true
    · rw [if_pos hfull]
      exact ⟨rfl, content.hasChild, hfull.1⟩
    · rw [if_neg hfull] at h
      rcases hhand : x.permitHandshake isOpen with e | _ | _
      · cases hcaught : x.caught <;> simp [hhand, hcaught, Except.map] at h
      · simp [hhand] at h
      · simp [hhand] at h

/-- A round of an inner loop ends the process, leaves the loop with somebody registered, or
stays in it. -/
theorem serve_waits {parkSize : ℕ} (hsize : 2 ≤ parkSize) (s : CashierSystem C)
    (hc : s.proc.CounterExact) (message : RegisterMQMessage) (x : ReplyOutcome)
    (erase : CashierProc → CashierProc) (done : RunPoint) :
    (s.serve parkSize message x erase done).point = .stopped ∨
    (s.serve parkSize message x erase done).point = done ∧
      (s.serve parkSize message x erase done).proc.clients ≠ ∅ ∨
    (s.serve parkSize message x erase done).point = s.point ∧
      ∃ c : CashierProc, c.enterVipQueue = s.proc.enterVipQueue ∧
        (s.serve parkSize message x erase done).proc = erase c := by
  have hframe := CashierProc.pRegisterClient_frame s.isOpen parkSize message x s.proc
  unfold serve
  dsimp only
  rcases hr : (CashierProc.pRegisterClient s.isOpen parkSize message x s.proc).1 with e | _ | _
  · exact .inl rfl
  · obtain ⟨hsame, hasChild, hfull⟩ := full_of_refused hr
    refine .inr (.inl ⟨rfl, ?_⟩)
    dsimp only
    rw [hsame]
    exact clients_ne_of_full hsize hc hfull
  · exact .inr (.inr ⟨rfl, _, hframe.1, rfl⟩)

/-- What each step does to the waiting requests, as long as `SIGTERM` has not ended the run. -/
theorem waits_step [DecidableEq C] {parkSize : ℕ} (hsize : 2 ≤ parkSize)
    {s t : CashierSystem C} {a : CashierAction C}
    (hs : s.proc.terminated = false → s.WaitsForRegistered) (hc : s.proc.CounterExact)
    (h : step parkSize s a = some t) (hlive : t.proc.terminated = false) :
    t.WaitsForRegistered := by
  have dead {u : CashierSystem C} (hsettled : u.point.settled = false)
      (hord : u.point ≠ .ordinaryLoop) : u.WaitsForRegistered :=
    ⟨fun hp => by simp [hsettled, hord] at hp, fun hp => by simp [hsettled] at hp⟩
  cases step_proc h with
  | quiet _ _ hproc hloop hsettled =>
    rw [hproc] at hlive
    obtain ⟨hvip, hordinary⟩ := hs hlive
    rw [← hproc] at hvip hordinary
    exact ⟨fun hp => hvip (hp.imp hsettled hloop), fun hp => hordinary (hsettled hp)⟩
  | sigTerm hproc =>
    rw [hproc] at hlive
    cases hlive
  | handle _ _ hpoint => exact dead (by rw [hpoint]; rfl) (by simp [hpoint])
  | leaveVip x hq => exact ⟨fun _ hne => absurd hq hne, fun hp => by cases hp⟩
  | @serveVip x message rest hpoint hq =>
    obtain hstop | ⟨hdone, hfull⟩ | ⟨hstay, -⟩ := serve_waits hsize s hc message x
      (fun c => { c with enterVipQueue := c.enterVipQueue.tail }) .ordinaryLoop
    · exact dead (by rw [hstop]; rfl) (by simp [hstop])
    · exact ⟨fun _ _ => hfull, fun hp => by rw [hdone] at hp; cases hp⟩
    · rw [hpoint] at hstay
      exact dead (by rw [hstay]; rfl) (by simp [hstay])
  | leaveOrdinary x hpoint hq =>
    -- ordinary requests wait only behind a VIP who waits himself
    have hvip := (hs hlive).vip (.inr hpoint)
    exact ⟨fun _ => hvip, fun _ hne => hvip (hq.resolve_right hne)⟩
  | @serveOrdinary x message rest hpoint hv hq =>
    obtain hstop | ⟨-, hfull⟩ | ⟨hstay, c, hvip, hproc⟩ := serve_waits hsize s hc message x
      (fun c => { c with enterQueue := c.enterQueue.tail }) .logging
    · exact dead (by rw [hstop]; rfl) (by simp [hstop])
    · exact ⟨fun _ _ => hfull, fun _ _ => hfull⟩
    · refine ⟨fun _ hne => absurd ?_ hne, fun hp => ?_⟩
      · rw [hproc, ← hv, ← hvip]
      · rw [hstay, hpoint] at hp
        cases hp

/-- The counter stays exact and waiting requests keep somebody registered. -/
structure Orderly (p : CashierSystem C × QueueHistory) : Prop where
  order : InOrder p
  counter : p.1.proc.CounterExact
  waits : p.1.proc.terminated = false → p.1.WaitsForRegistered

theorem Orderly.allAnswered {p : CashierSystem C × QueueHistory} (hp : Orderly p)
    (hreturns : p.1.Returns) : AllAnswered p := by
  obtain ⟨hpoint, hstop, hlive⟩ := hreturns
  have hclients : p.1.proc.clients = ∅ := by
    simp only [continues, hlive, Bool.not_false, Bool.and_true, Bool.or_eq_false_iff,
      Bool.not_eq_false', List.isEmpty_iff] at hstop
    exact AList.ext hstop.1.2
  have hwaits := hp.waits hlive
  have hvip : p.1.proc.enterVipQueue = [] := by
    by_contra hne
    exact hwaits.vip (.inl (by rw [hpoint]; rfl)) hne hclients
  have hordinary : p.1.proc.enterQueue = [] := by
    by_contra hne
    exact hwaits.ordinary (by rw [hpoint]; rfl) hne hclients
  refine ⟨hclients, hvip, hordinary, fun vip => ?_⟩
  have horder := hp.order vip
  cases vip <;> simpa [CashierProc.queue, hvip, hordinary] using horder

theorem Orderly.step [DecidableEq C] {parkSize : ℕ} (hsize : 2 ≤ parkSize)
    {p q : CashierSystem C × QueueHistory} {a : CashierAction C} (hp : Orderly p)
    (hnew : p.1.RegistersNewPids parkSize a)
    (h : (queueMachine C parkSize).step p a = some q) : Orderly q := by
  have hstep := (Machine.observe_step.mp h).1
  exact ⟨hp.order.step h, counterExact_step hp.counter hnew (step_registry hstep),
    waits_step hsize hp.waits hp.counter hstep⟩

/-- In every run of a cashier with at least two places in which no step registers a PID that
is registered already: whenever `Run` returns without `SIGTERM`, everybody is answered. -/
theorem allAnswered_of_newPids [DecidableEq C] (parkSize tokens : ℕ) (hsize : 2 ≤ parkSize)
    (as : List (CashierAction C))
    (hnew : (queueMachine C parkSize).Meets (fun p a => p.1.RegistersNewPids parkSize a)
      (init tokens, .empty) as) :
    (queueMachine C parkSize).Always (fun p => p.1.Returns → AllAnswered p)
      (init tokens, .empty) as := by
  refine Machine.always_of_meets (I := Orderly) (fun p hp => hp.allAnswered)
    (fun _ _ _ hp ha h => hp.step hsize ha h) ?_ hnew
  refine ⟨fun vip => ?_, ⟨rfl, fun _ => rfl⟩, fun _ => ⟨fun _ hne => absurd rfl hne,
    fun _ hne => absurd rfl hne⟩⟩
  cases vip <;> rfl

instance (isOpen : Bool) (parkSize : ℕ) (message : RegisterMQMessage) (x : ReplyOutcome)
    (c : CashierProc) : Decidable (c.Admits isOpen parkSize message x) :=
  match h : message.content with
  | .exitPark _ => isFalse (by simp [CashierProc.Admits, h])
  | .enterPark content => decidable_of_iff (isOpen = true ∧
      c.clientCounter + partySize content.hasChild ≤ parkSize ∧
        x.permitHandshake true = .ok true) (by simp [CashierProc.Admits, h])

instance (parkSize : ℕ) (s : CashierSystem C) (a : CashierAction C) :
    Decidable (s.RegistersNewPids parkSize a) :=
  match h : s.served a with
  | none => isTrue (by simp [RegistersNewPids, h])
  | some (message, x) => decidable_of_iff (s.proc.Admits s.isOpen parkSize message x →
      message.senderPID ∉ s.proc.clients) (by simp [RegistersNewPids, h])

/-- A client enters, the park closes, the client leaves, and `Run` returns. -/
def quietDayRun : List (CashierAction Unit) :=
  let request : RegisterMQMessage := ⟨7, .enterPark, .enterPark ⟨false, false, .h2⟩⟩
  let exit : RegisterMQMessage := ⟨7, .exitPark, .exitPark ⟨false⟩⟩
  let x : ReplyOutcome := .faultless 7 0
  let round (msg : RegisterMQMessage) : List (CashierAction Unit) :=
    [.mailbox (.send () 0 msg), .mailbox (.signal ()), .check, .wake true, .handle x, .serveVip x]
  round request ++ [.serveOrdinary x, .serveOrdinary x, .log (.ok ()), .closePark] ++
    round exit ++ [.serveOrdinary x, .log (.ok ())]

/-- The theorem at this run, which ends with the return. -/
theorem quietDay_allAnswered :
    (queueMachine Unit 2).Always (fun p => p.1.Returns → AllAnswered p)
        (init 0, .empty) quietDayRun ∧
      ∃ p, (queueMachine Unit 2).exec (init 0, .empty) quietDayRun = some p ∧ p.1.Returns := by
  exact ⟨allAnswered_of_newPids 2 0 (by decide) quietDayRun (by decide), _, rfl, rfl, by decide,
    rfl⟩

end CashierSystem
end AmusementPark.Cashier
