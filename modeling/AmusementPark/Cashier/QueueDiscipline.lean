import AmusementPark.Cashier.Run

/-! # The order of the entry requests

Every entry request that the cashier receives waits in the queue of its class
until `pRegisterClient` returns true for it. What has been handled, followed by
what waits, is what has been received, for each class and in order. Ordinary
requests are served only while no VIP waits.
-/
namespace AmusementPark.Cashier
open Library Worker

/-- The class of an `ENTER_PARK` request. A message with a wrong content has none: reading it
throws before it is queued. -/
def entryClass (msg : RegisterMQMessage) : Option Bool :=
  match msg.mType, msg.content with
  | .enterPark, .enterPark content => some content.isVip
  | _, _ => none

/-- The queue of the VIPs or of the ordinary clients. -/
def CashierProc.queue (vip : Bool) (c : CashierProc) : List RegisterMQMessage :=
  if vip then c.enterVipQueue else c.enterQueue

/-- The class whose inner loop the action is a round of. -/
def CashierAction.servingClass {C : Type*} : CashierAction C → Option Bool
  | .serveVip _ => some true
  | .serveOrdinary _ => some false
  | _ => none

namespace CashierSystem
variable {C : Type*}

/-- The entry requests of one class that the step receives: one or none. -/
def arrived (s : CashierSystem C) (vip : Bool) (a : CashierAction C) : List RegisterMQMessage :=
  match s.received a with
  | some msg => if entryClass msg = some vip then [msg] else []
  | none => []

/-- The entry requests of one class that the step handles: the served one, when
`pRegisterClient` returns true for it. -/
def handled (parkSize : ℕ) (s : CashierSystem C) (vip : Bool) (a : CashierAction C) :
    List RegisterMQMessage :=
  if a.servingClass = some vip then match s.served a with
    | some (message, x) =>
      match (CashierProc.pRegisterClient s.isOpen parkSize message x s.proc).1 with
      | .ok true => [message]
      | _ => []
    | none => []
  else []

/-- What has been received and handled so far, by class. -/
structure QueueHistory where
  received : Bool → List RegisterMQMessage
  handled : Bool → List RegisterMQMessage

def QueueHistory.empty : QueueHistory := ⟨fun _ => [], fun _ => []⟩

def recordQueues (parkSize : ℕ) (h : QueueHistory) (s : CashierSystem C) (a : CashierAction C)
    (_ : CashierSystem C) : QueueHistory where
  received vip := h.received vip ++ s.arrived vip a
  handled vip := h.handled vip ++ s.handled parkSize vip a

/-- The cashier with the history of its requests. -/
def queueMachine (C : Type*) [DecidableEq C] (parkSize : ℕ) :
    Machine (CashierSystem C × QueueHistory) (CashierAction C) :=
  (machine C parkSize).observe (recordQueues parkSize)

/-- The handled requests of each class followed by its queue are the received ones. -/
def InOrder (p : CashierSystem C × QueueHistory) : Prop :=
  ∀ vip, p.2.handled vip ++ p.1.proc.queue vip = p.2.received vip

/-- `pRegisterClient` is called on an ordinary request only while no VIP request waits. -/
def ServesVipFirst (s : CashierSystem C) (a : CashierAction C) : Prop :=
  a.servingClass = some false → s.served a ≠ none → s.proc.enterVipQueue = []

theorem servesVipFirst (s : CashierSystem C) (a : CashierAction C) : s.ServesVipFirst a := by
  intro hclass hserved
  cases a with
  | serveOrdinary x =>
    by_contra hvip
    exact hserved (by simp [served, hvip])
  | _ => simp [CashierAction.servingClass] at hclass

theorem pHandleRegisterMQ_queue (msg : RegisterMQMessage) (x : ReplyOutcome) (c : CashierProc)
    (vip : Bool) : (CashierProc.pHandleRegisterMQ msg x c).queue vip =
      c.queue vip ++ if entryClass msg = some vip then [msg] else [] := by
  have hremove (pid : Pid) : (CashierProc.pRemoveClient pid c).queue vip = c.queue vip := by
    unfold CashierProc.pRemoveClient
    split <;> rfl
  cases htype : msg.mType with
  | exitPark =>
    rw [CashierProc.pHandleRegisterMQ_exit msg x c htype, hremove]
    simp [entryClass, htype]
  | other raw => simp [CashierProc.pHandleRegisterMQ, entryClass, htype]
  | enterPark =>
    cases hcontent : msg.content with
    | exitPark content =>
      simp [CashierProc.pHandleRegisterMQ, CashierProc.pHandleEnterPark, entryClass, htype,
        hcontent]
    | enterPark content =>
      cases hvip : content.isVip <;> cases vip <;>
        simp [CashierProc.pHandleRegisterMQ, CashierProc.pHandleEnterPark, CashierProc.queue,
          entryClass, htype, hcontent, hvip]

/-- `pRegisterClient` itself leaves the queues alone. -/
theorem pRegisterClient_queue (isOpen : Bool) (parkSize : ℕ) (message : RegisterMQMessage)
    (x : ReplyOutcome) (c : CashierProc) (vip : Bool) :
    (CashierProc.pRegisterClient isOpen parkSize message x c).2.queue vip = c.queue vip := by
  obtain ⟨hvip, hord, -⟩ := CashierProc.pRegisterClient_frame isOpen parkSize message x c
  cases vip
  · exact hord
  · exact hvip

/-- One round of an inner loop erases the served head exactly when it has handled it. -/
theorem serve_queue (s : CashierSystem C) (parkSize : ℕ) (message : RegisterMQMessage)
    (x : ReplyOutcome) (erase : CashierProc → CashierProc) (done : RunPoint) (vip : Bool) :
    (s.serve parkSize message x erase done).proc.queue vip =
      match (CashierProc.pRegisterClient s.isOpen parkSize message x s.proc).1 with
      | .ok true =>
        (erase (CashierProc.pRegisterClient s.isOpen parkSize message x s.proc).2).queue vip
      | _ => s.proc.queue vip := by
  have hsame := pRegisterClient_queue s.isOpen parkSize message x s.proc vip
  unfold serve
  dsimp only
  rcases (CashierProc.pRegisterClient s.isOpen parkSize message x s.proc).1 with e | _ | _
  · exact hsame
  · exact hsame
  · rfl

/-- A round of the inner loop of one class, whose queue has the served request at its head. -/
theorem serve_handled {parkSize : ℕ} {s : CashierSystem C} {a : CashierAction C}
    {message : RegisterMQMessage} {x : ReplyOutcome} {rest : List RegisterMQMessage}
    {vip : Bool} (ofVip : Bool) (hclass : a.servingClass = some ofVip)
    (hserved : s.served a = some (message, x)) (hreceived : s.received a = none)
    (hq : s.proc.queue ofVip = message :: rest) {erase : CashierProc → CashierProc}
    (herase : ∀ c, (erase c).queue vip = if vip = ofVip then (c.queue vip).tail else c.queue vip)
    (done : RunPoint) :
    s.handled parkSize vip a ++ (s.serve parkSize message x erase done).proc.queue vip =
      s.proc.queue vip ++ s.arrived vip a := by
  rw [serve_queue]
  simp only [handled, arrived, hreceived, hserved, hclass]
  rcases (CashierProc.pRegisterClient s.isOpen parkSize message x s.proc).1 with e | _ | _
  · simp
  · simp
  · rw [herase, pRegisterClient_queue]
    by_cases hvip : vip = ofVip
    · rw [hvip, hq]
      simp
    · simp [hvip, Ne.symm hvip]

/-- What a step handles, followed by the queue after it, is the queue before it followed by
what the step receives. -/
theorem step_queue [DecidableEq C] {parkSize : ℕ} {s t : CashierSystem C} {a : CashierAction C}
    (h : step parkSize s a = some t) (vip : Bool) :
    s.handled parkSize vip a ++ t.proc.queue vip = s.proc.queue vip ++ s.arrived vip a := by
  cases step_proc h with
  | quiet hserved hreceived hproc => simp [handled, arrived, hserved, hreceived, hproc]
  | sigTerm hproc =>
    have hqueue : t.proc.queue vip = s.proc.queue vip := by rw [hproc]; rfl
    simp [handled, arrived, received, CashierAction.servingClass, hqueue]
  | @handle _ x msg hreceived hproc =>
    rw [hproc, pHandleRegisterMQ_queue msg x s.proc vip]
    simp [arrived, hreceived, handled, CashierAction.servingClass]
  | leaveVip x hq => simp [handled, arrived, received, served, hq]
  | serveVip x hpoint hq =>
    apply serve_handled true rfl (by simp [served, hpoint, hq]) rfl hq
    intro c
    cases vip <;> rfl
  | leaveOrdinary x _ hq =>
    obtain hvip | hnone := hq
    · simp [handled, arrived, received, served, hvip]
    · simp [handled, arrived, received, served, hnone]
  | serveOrdinary x hpoint hv hq =>
    apply serve_handled false rfl (by simp [served, hpoint, hv, hq]) rfl hq
    intro c
    cases vip <;> rfl

theorem InOrder.step [DecidableEq C] {parkSize : ℕ} {p q : CashierSystem C × QueueHistory}
    {a : CashierAction C} (hp : InOrder p) (h : (queueMachine C parkSize).step p a = some q) :
    InOrder q := by
  obtain ⟨hstep, hrecord⟩ := Machine.observe_step.mp h
  intro vip
  rw [← hrecord]
  dsimp only [recordQueues]
  rw [List.append_assoc, step_queue hstep vip, ← List.append_assoc, hp vip]

/-- In every run of the cashier and in each of its states, loop heads among them, the handled
requests of each class followed by the queue of the class are the received ones in order, and
no step serves an ordinary request while a VIP request waits. -/
theorem queueDiscipline [DecidableEq C] (parkSize tokens : ℕ) (as : List (CashierAction C)) :
    (queueMachine C parkSize).Always InOrder (init tokens, .empty) as ∧
      (queueMachine C parkSize).Meets (fun p a => p.1.ServesVipFirst a)
        (init tokens, .empty) as := by
  constructor
  · refine Machine.always_of_invariant (fun _ h => h) (fun _ _ _ hp h => hp.step h) as ?_
    intro vip
    cases vip <;> rfl
  · exact Machine.meets_of_forall (fun p _ => servesVipFirst (Prod.fst p) _) _ as

end CashierSystem
end AmusementPark.Cashier
