import AmusementPark.Cashier.CashierProc
import AmusementPark.Worker.Mailbox

/-! # The cashier's main loop

`CashierProc::Run` as a machine that interleaves with its clients, with the
closing of the park and with `SIGTERM`. A step is one handler of the loop, one
step of a client, or one signal; the loop is cut at every point between two
handlers.
-/
namespace AmusementPark.Cashier
open Library Worker

/-- Where `Run` stands. `woken` remembers whether `Wait` got a token. -/
inductive RunPoint where
  | loopHead
  | waiting
  | woken (token : Bool)
  | vipLoop
  | ordinaryLoop
  | logging
  | stopped
deriving DecidableEq

/-- The points between the end of an iteration and the next message. -/
def RunPoint.settled : RunPoint → Bool
  | .loopHead | .waiting | .woken _ | .logging => true
  | _ => false

structure CashierSystem (C : Type*) where
  proc : CashierProc
  isOpen : Bool
  point : RunPoint
  mailbox : Mailbox RegisterMQMessage C

/-- `sigTerm` arrives between two calls of `Run`. While `pRegisterClient` or `pHandleExitPark`
exchanges messages with a client, a `SIGTERM` whose log message throws is caught like an exception
of the exchange, and does no more: the step is `serveVip`, `serveOrdinary` or `handle` with an
outcome that throws. -/
inductive CashierAction (C : Type*) where
  | mailbox (a : MailboxAction RegisterMQMessage C)
  | closePark
  | sigTerm (logged : Except Exn Unit)
  | check
  | wake (token : Bool)
  | receiveThrows
  | handle (x : ReplyOutcome)
  | serveVip (x : ReplyOutcome)
  | serveOrdinary (x : ReplyOutcome)
  | log (logged : Except Exn Unit)

namespace CashierSystem
variable {C : Type*}

/-- The cashier after `Init`, with some tokens already posted. -/
def init (tokens : ℕ) : CashierSystem C := ⟨.init, true, .loopHead, .empty tokens⟩

/-- The loop condition. -/
def continues (s : CashierSystem C) : Bool :=
  (s.isOpen || !s.proc.clients.entries.isEmpty || !s.mailbox.queue.isEmpty) && !s.proc.terminated

/-- One round of an inner loop: `pRegisterClient` on the head of a queue, which is erased when
the call returns true. `done` is where the loop is left. -/
def serve (s : CashierSystem C) (parkSize : ℕ) (message : RegisterMQMessage) (x : ReplyOutcome)
    (erase : CashierProc → CashierProc) (done : RunPoint) : CashierSystem C :=
  let r := CashierProc.pRegisterClient s.isOpen parkSize message x s.proc
  match r.1 with
  | .error _ => { s with proc := r.2, point := .stopped }
  | .ok false => { s with proc := r.2, point := done }
  | .ok true => { s with proc := erase r.2 }

def step [DecidableEq C] (parkSize : ℕ) (s : CashierSystem C) :
    CashierAction C → Option (CashierSystem C)
  | .mailbox a => (s.mailbox.step a).map fun m => { s with mailbox := m }
  | .closePark => some { s with isOpen := false }
  -- the handler interrupts the loop anywhere; it returns at once while the park is open
  | .sigTerm logged => if s.isOpen then some s else match logged with
    | .error _ => some { s with point := .stopped }
    | .ok () => some { s with
        proc := s.proc.handleSigTerm s.isOpen
        mailbox := { s.mailbox with eventSemaphore := s.mailbox.eventSemaphore + 1 } }
  | .check => if s.point = .loopHead then
      some { s with point := if s.continues then .waiting else .stopped } else none
  | .wake token => if s.point = .waiting then
      if token then s.mailbox.take.map fun m => { s with mailbox := m, point := .woken true }
      else some { s with point := .woken false }
    else none
  | .receiveThrows => match s.point with
    | .woken _ => some { s with point := .stopped }
    | _ => none
  | .handle x => match s.point with
    | .woken _ => match s.mailbox.receive with
      | (none, m) => some { s with mailbox := m, point := .vipLoop }
      | (some msg, m) => some { s with
          proc := CashierProc.pHandleRegisterMQ msg x s.proc
          mailbox := m
          point := .vipLoop }
    | _ => none
  | .serveVip x => if s.point = .vipLoop then match s.proc.enterVipQueue with
      | [] => some { s with point := .ordinaryLoop }
      | message :: _ => some (s.serve parkSize message x
          (fun c => { c with enterVipQueue := c.enterVipQueue.tail }) .ordinaryLoop)
    else none
  | .serveOrdinary x => if s.point = .ordinaryLoop then
      match s.proc.enterVipQueue, s.proc.enterQueue with
      | [], message :: _ => some (s.serve parkSize message x
          (fun c => { c with enterQueue := c.enterQueue.tail }) .logging)
      | _, _ => some { s with point := .logging }
    else none
  | .log logged => if s.point = .logging then match logged with
      | .ok () => some { s with point := .loopHead }
      | .error _ => some { s with point := .stopped }
    else none

def machine (C : Type*) [DecidableEq C] (parkSize : ℕ) :
    Machine (CashierSystem C) (CashierAction C) := ⟨step parkSize⟩

/-- The request that a step passes to `pRegisterClient`, with the outcome of its exchange. -/
def served (s : CashierSystem C) : CashierAction C → Option (RegisterMQMessage × ReplyOutcome)
  | .serveVip x => if s.point = .vipLoop then s.proc.enterVipQueue.head?.map (·, x) else none
  | .serveOrdinary x => if s.point = .ordinaryLoop ∧ s.proc.enterVipQueue = [] then
      s.proc.enterQueue.head?.map (·, x) else none
  | _ => none

/-- The message the step takes from the register queue. -/
def received (s : CashierSystem C) : CashierAction C → Option RegisterMQMessage
  | .handle _ => match s.point with
    | .woken _ => s.mailbox.receive.1
    | _ => none
  | _ => none

/-- What a step does to the cashier's own data. A quiet step leaves it alone, and neither enters
the ordinary loop nor ends an iteration. -/
inductive ProcStep (parkSize : ℕ) (s : CashierSystem C) :
    CashierAction C → CashierSystem C → Prop where
  | quiet {a : CashierAction C} {t : CashierSystem C} (hserved : s.served a = none)
      (hreceived : s.received a = none) (hproc : t.proc = s.proc)
      (hloop : t.point = .ordinaryLoop → s.point = .ordinaryLoop)
      (hsettled : t.point.settled = true → s.point.settled = true) : ProcStep parkSize s a t
  | sigTerm {t : CashierSystem C} (hproc : t.proc = s.proc.handleSigTerm false) :
      ProcStep parkSize s (.sigTerm (.ok ())) t
  | handle {t : CashierSystem C} {x : ReplyOutcome} {msg : RegisterMQMessage}
      (hreceived : s.received (.handle x) = some msg)
      (hproc : t.proc = CashierProc.pHandleRegisterMQ msg x s.proc) (hpoint : t.point = .vipLoop) :
      ProcStep parkSize s (.handle x) t
  | leaveVip (x : ReplyOutcome) (hq : s.proc.enterVipQueue = []) :
      ProcStep parkSize s (.serveVip x) { s with point := .ordinaryLoop }
  | serveVip (x : ReplyOutcome) {message : RegisterMQMessage} {rest : List RegisterMQMessage}
      (hpoint : s.point = .vipLoop) (hq : s.proc.enterVipQueue = message :: rest) :
      ProcStep parkSize s (.serveVip x) (s.serve parkSize message x
        (fun c => { c with enterVipQueue := c.enterVipQueue.tail }) .ordinaryLoop)
  | leaveOrdinary (x : ReplyOutcome) (hpoint : s.point = .ordinaryLoop)
      (hq : s.proc.enterVipQueue ≠ [] ∨ s.proc.enterQueue = []) :
      ProcStep parkSize s (.serveOrdinary x) { s with point := .logging }
  | serveOrdinary (x : ReplyOutcome) {message : RegisterMQMessage} {rest : List RegisterMQMessage}
      (hpoint : s.point = .ordinaryLoop) (hv : s.proc.enterVipQueue = [])
      (hq : s.proc.enterQueue = message :: rest) :
      ProcStep parkSize s (.serveOrdinary x) (s.serve parkSize message x
        (fun c => { c with enterQueue := c.enterQueue.tail }) .logging)

theorem step_proc [DecidableEq C] {parkSize : ℕ} {s t : CashierSystem C} {a : CashierAction C}
    (h : step parkSize s a = some t) : ProcStep parkSize s a t := by
  cases a with
  | mailbox a =>
    obtain ⟨m, -, rfl⟩ := Option.map_eq_some_iff.mp h
    exact .quiet rfl rfl rfl id id
  | closePark =>
    obtain rfl := Option.some.inj h
    exact .quiet rfl rfl rfl id id
  | sigTerm logged =>
    cases hopen : s.isOpen with
    | true =>
      simp only [step, hopen, if_true, Option.some.injEq] at h
      exact h ▸ .quiet rfl rfl rfl id id
    | false => cases logged with
      | error e =>
        simp only [step, hopen, Bool.false_eq_true, if_false, Option.some.injEq] at h
        exact h ▸ .quiet rfl rfl rfl (fun hp => by cases hp) (fun hp => by cases hp)
      | ok u =>
        simp only [step, hopen, Bool.false_eq_true, if_false, Option.some.injEq] at h
        exact h ▸ .sigTerm rfl
  | check =>
    simp only [step, Option.ite_none_right_eq_some, Option.some.injEq] at h
    obtain ⟨hpoint, rfl⟩ := h
    refine .quiet rfl rfl rfl (fun hp => ?_) (fun _ => by rw [hpoint]; rfl)
    dsimp only at hp
    split at hp <;> cases hp
  | wake token =>
    simp only [step, Option.ite_none_right_eq_some] at h
    obtain ⟨hpoint, h⟩ := h
    have hsettled : s.point.settled = true := by rw [hpoint]; rfl
    cases token with
    | true =>
      obtain ⟨m, -, rfl⟩ := Option.map_eq_some_iff.mp h
      exact .quiet rfl rfl rfl (fun hp => by cases hp) (fun _ => hsettled)
    | false =>
      obtain rfl := Option.some.inj h
      exact .quiet rfl rfl rfl (fun hp => by cases hp) (fun _ => hsettled)
  | receiveThrows =>
    cases hpoint : s.point with
    | woken token =>
      simp only [step, hpoint, Option.some.injEq] at h
      exact h ▸ .quiet rfl rfl rfl (fun hp => by cases hp) (fun hp => by cases hp)
    | _ => simp [step, hpoint] at h
  | handle x =>
    cases hpoint : s.point with
    | woken token =>
      rcases hreceive : s.mailbox.receive with ⟨_ | msg, m⟩
      · simp only [step, hpoint, hreceive, Option.some.injEq] at h
        exact h ▸ .quiet rfl (by simp [received, hpoint, hreceive]) rfl (fun hp => by cases hp)
          (fun hp => by cases hp)
      · simp only [step, hpoint, hreceive, Option.some.injEq] at h
        exact h ▸ .handle (by simp [received, hpoint, hreceive]) rfl rfl
    | _ => simp [step, hpoint] at h
  | serveVip x =>
    simp only [step, Option.ite_none_right_eq_some] at h
    obtain ⟨hpoint, h⟩ := h
    cases hq : s.proc.enterVipQueue with
    | nil =>
      simp only [hq, Option.some.injEq] at h
      exact h ▸ .leaveVip x hq
    | cons message rest =>
      simp only [hq, Option.some.injEq] at h
      exact h ▸ .serveVip x hpoint hq
  | serveOrdinary x =>
    simp only [step, Option.ite_none_right_eq_some] at h
    obtain ⟨hpoint, h⟩ := h
    cases hv : s.proc.enterVipQueue with
    | cons v vs =>
      simp only [hv, Option.some.injEq] at h
      exact h ▸ .leaveOrdinary x hpoint (.inl (by simp [hv]))
    | nil => cases hq : s.proc.enterQueue with
      | nil =>
        simp only [hv, hq, Option.some.injEq] at h
        exact h ▸ .leaveOrdinary x hpoint (.inr hq)
      | cons message rest =>
        simp only [hv, hq, Option.some.injEq] at h
        exact h ▸ .serveOrdinary x hpoint hv hq
  | log logged =>
    simp only [step, Option.ite_none_right_eq_some] at h
    obtain ⟨hpoint, h⟩ := h
    have hsettled : s.point.settled = true := by rw [hpoint]; rfl
    cases logged with
    | ok u =>
      obtain rfl := Option.some.inj h
      exact .quiet rfl rfl rfl (fun hp => by cases hp) (fun _ => hsettled)
    | error e =>
      obtain rfl := Option.some.inj h
      exact .quiet rfl rfl rfl (fun hp => by cases hp) (fun _ => hsettled)

/-- What a step can do to the registered clients: register a served client, remove one client,
drop them all, or nothing. -/
inductive RegistryStep (parkSize : ℕ) (s : CashierSystem C) (a : CashierAction C)
    (t : CashierSystem C) : Prop where
  | registration (message : RegisterMQMessage) (x : ReplyOutcome) (content : EnterPark)
      (hserved : s.served a = some (message, x)) (hcontent : message.content = .enterPark content)
      (hopen : s.isOpen = true)
      (hfits : s.proc.clientCounter + partySize content.hasChild ≤ parkSize)
      (hack : x.permitHandshake true = .ok true)
      (hclients : t.proc.clients =
        (s.proc.register message.senderPID content x.now).clients)
      (hcounter : t.proc.clientCounter = s.proc.clientCounter + partySize content.hasChild)
  | remove (pid : Pid) (hnone : s.served a = none)
      (hclients : t.proc.clients = (CashierProc.pRemoveClient pid s.proc).clients)
      (hcounter : t.proc.clientCounter = (CashierProc.pRemoveClient pid s.proc).clientCounter)
  | clear (hnone : s.served a = none) (hclients : t.proc.clients = ∅)
      (hcounter : t.proc.clientCounter = 0)
  | keep (hnone : ∀ message x, s.served a = some (message, x) →
        ¬ CashierProc.Admits s.isOpen parkSize message x s.proc)
      (hclients : t.proc.clients = s.proc.clients)
      (hcounter : t.proc.clientCounter = s.proc.clientCounter)

/-- One round of an inner loop registers the head of its queue or leaves the clients alone. -/
theorem serve_registry (s : CashierSystem C) (parkSize : ℕ) (a : CashierAction C)
    (message : RegisterMQMessage) (x : ReplyOutcome) (erase : CashierProc → CashierProc)
    (done : RunPoint) (hserved : s.served a = some (message, x))
    (herase : ∀ c, (erase c).clients = c.clients ∧ (erase c).clientCounter = c.clientCounter) :
    RegistryStep parkSize s a (s.serve parkSize message x erase done) := by
  obtain ⟨content, hcontent, hopen, hfits, hack, hreg⟩ | ⟨hnone, hkeep⟩ :=
    CashierProc.pRegisterClient_state s.isOpen parkSize message x s.proc
  · have hstate : s.serve parkSize message x erase done =
        { s with proc := erase (s.proc.register message.senderPID content x.now) } := by
      unfold serve
      rw [hreg]
    refine .registration message x content hserved hcontent hopen hfits hack ?_ ?_
    · rw [hstate, (herase _).1]
    · rw [hstate, (herase _).2]
      rfl
  · have hboth : (s.serve parkSize message x erase done).proc.clients = s.proc.clients ∧
        (s.serve parkSize message x erase done).proc.clientCounter = s.proc.clientCounter := by
      unfold serve
      dsimp only
      split
      · exact ⟨by rw [hkeep], by rw [hkeep]⟩
      · exact ⟨by rw [hkeep], by rw [hkeep]⟩
      · dsimp only
        rw [(herase _).1, (herase _).2, hkeep]
        exact ⟨rfl, rfl⟩
    refine .keep (fun m y hy => ?_) hboth.1 hboth.2
    rw [hserved, Option.some.injEq, Prod.mk.injEq] at hy
    obtain ⟨rfl, rfl⟩ := hy
    exact hnone

theorem handle_registry (s : CashierSystem C) (parkSize : ℕ) (a : CashierAction C)
    (ha : s.served a = none) (msg : RegisterMQMessage) (x : ReplyOutcome) (t : CashierSystem C)
    (ht : t.proc = CashierProc.pHandleRegisterMQ msg x s.proc) : RegistryStep parkSize s a t := by
  by_cases hm : msg.mType = .exitPark
  · have := CashierProc.pHandleRegisterMQ_exit msg x s.proc hm
    exact .remove msg.senderPID ha (by rw [ht, this]) (by rw [ht, this])
  · have := CashierProc.pHandleRegisterMQ_other msg x s.proc hm
    exact .keep (by simp [ha]) (by rw [ht, this.1]) (by rw [ht, this.2])

/-- Every step of the machine is one of the four. -/
theorem step_registry [DecidableEq C] {parkSize : ℕ} {s t : CashierSystem C}
    {a : CashierAction C} (h : step parkSize s a = some t) : RegistryStep parkSize s a t := by
  have unchanged (ha : s.served a = none) (hp : t.proc = s.proc) : RegistryStep parkSize s a t :=
    .keep (by simp [ha]) (by rw [hp]) (by rw [hp])
  cases step_proc h with
  | quiet hserved _ hproc => exact unchanged hserved hproc
  | sigTerm hproc => exact .clear rfl (by rw [hproc]; rfl) (by rw [hproc]; rfl)
  | handle _ hproc => exact handle_registry s parkSize _ rfl _ _ t hproc
  | leaveVip x hq => exact unchanged (by simp [served, hq]) rfl
  | serveVip x hpoint hq =>
    exact serve_registry s parkSize _ _ x _ _ (by simp [served, hpoint, hq]) (fun c => ⟨rfl, rfl⟩)
  | leaveOrdinary x _ hq =>
    refine unchanged ?_ rfl
    obtain hvip | hnone := hq
    · simp [served, hvip]
    · simp [served, hnone]
  | serveOrdinary x hpoint hv hq =>
    exact serve_registry s parkSize _ _ x _ _ (by simp [served, hpoint, hv, hq])
      (fun c => ⟨rfl, rfl⟩)

end CashierSystem
end AmusementPark.Cashier
