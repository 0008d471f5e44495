import AmusementPark.Cashier.QueueDiscipline
import AmusementPark.Worker.Traffic

/-! # The entry requests from the send to the answer

A client sends its entry request with the priority of its class. On the way from
the client to `pRegisterClient` a request waits twice, in the register queue and
in the queue of its class, and it overtakes nobody of its own class at either
place. A VIP overtakes the ordinary clients at both.
-/
namespace AmusementPark.Cashier
open Library Worker

/-- Whether a message is an entry request of the class. -/
def ofEntryClass (vip : Bool) (msg : RegisterMQMessage) : Bool := entryClass msg = some vip

def CashierAction.sent {C : Type*} : CashierAction C → Option (ℕ × RegisterMQMessage)
  | .mailbox a => a.sent
  | _ => none

/-- The priority that `pSendRegisterMQMessage` gives to an entry request, which is `m_isVip` like
the flag in the request. -/
def CashierAction.SendsByClass {C : Type*} (a : CashierAction C) : Prop :=
  ∀ e ∈ a.sent, ∀ vip, ofEntryClass vip e.2 = true → e.1 = vip.toNat

instance {C : Type*} (a : CashierAction C) : Decidable a.SendsByClass :=
  match h : a.sent with
  | none => isTrue (by simp [CashierAction.SendsByClass, h])
  | some e => decidable_of_iff (∀ vip, ofEntryClass vip e.2 = true → e.1 = vip.toNat)
      (by simp [CashierAction.SendsByClass, h])

namespace CashierSystem
variable {C : Type*}

/-- The cashier with the history of its requests and with the requests that have been sent. -/
def arrivalMachine (C : Type*) [DecidableEq C] (parkSize : ℕ) :
    Machine ((CashierSystem C × QueueHistory) × (Bool → List RegisterMQMessage))
      (CashierAction C) :=
  (queueMachine C parkSize).observe fun sent _ a _ vip =>
    sent vip ++ sentOf (ofEntryClass vip) a.sent

/-- The handled requests of each class, followed by those in its queue and by those in the
register queue, are the sent ones in order. -/
def InSendingOrder (x : (CashierSystem C × QueueHistory) × (Bool → List RegisterMQMessage)) :
    Prop :=
  ∀ vip, x.1.2.handled vip ++ x.1.1.proc.queue vip ++ x.1.1.mailbox.inQueue (ofEntryClass vip) =
    x.2 vip

/-- An ordinary entry request is received only while the register queue has none of a VIP. -/
def ReceivesVipFirst (s : CashierSystem C) (a : CashierAction C) : Prop :=
  s.arrived false a ≠ [] → s.mailbox.inQueue (ofEntryClass true) = []

theorem serve_mailbox (s : CashierSystem C) (parkSize : ℕ) (message : RegisterMQMessage)
    (x : ReplyOutcome) (erase : CashierProc → CashierProc) (done : RunPoint) :
    (s.serve parkSize message x erase done).mailbox.queue = s.mailbox.queue := by
  unfold serve
  dsimp only
  split <;> rfl

/-- What a step does to the register queue. -/
theorem step_traffic [DecidableEq C] {parkSize : ℕ} {s t : CashierSystem C} {a : CashierAction C}
    (h : step parkSize s a = some t) : s.mailbox.Traffic t.mailbox a.sent (s.received a) := by
  cases a with
  | mailbox a =>
    obtain ⟨m, hm, rfl⟩ := Option.map_eq_some_iff.mp h
    exact Mailbox.step_traffic hm
  | closePark =>
    obtain rfl := Option.some.inj h
    exact .keeps rfl
  | sigTerm logged =>
    cases hopen : s.isOpen with
    | true =>
      simp only [step, hopen, if_true, Option.some.injEq] at h
      exact h ▸ .keeps rfl
    | false =>
      cases logged with
      | error e =>
        simp only [step, hopen, Bool.false_eq_true, if_false, Option.some.injEq] at h
        exact h ▸ .keeps rfl
      | ok u =>
        simp only [step, hopen, Bool.false_eq_true, if_false, Option.some.injEq] at h
        exact h ▸ .keeps rfl
  | check =>
    simp only [step, Option.ite_none_right_eq_some, Option.some.injEq] at h
    obtain ⟨-, rfl⟩ := h
    exact .keeps rfl
  | wake token =>
    simp only [step, Option.ite_none_right_eq_some] at h
    obtain ⟨-, h⟩ := h
    cases token with
    | true =>
      obtain ⟨m, hm, rfl⟩ := Option.map_eq_some_iff.mp h
      exact Mailbox.take_traffic hm
    | false =>
      obtain rfl := Option.some.inj h
      exact .keeps rfl
  | receiveThrows =>
    cases hpoint : s.point with
    | woken token =>
      simp only [step, hpoint, Option.some.injEq] at h
      exact h ▸ .keeps rfl
    | _ => simp [step, hpoint] at h
  | handle x =>
    cases hpoint : s.point with
    | woken token =>
      have hreceived : s.received (.handle x) = s.mailbox.receive.1 := by
        simp only [received, hpoint]
      rw [hreceived]
      rcases hreceive : s.mailbox.receive with ⟨_ | msg, m⟩
      · simp only [step, hpoint, hreceive, Option.some.injEq] at h
        exact h ▸ Mailbox.receive_traffic hreceive
      · simp only [step, hpoint, hreceive, Option.some.injEq] at h
        exact h ▸ Mailbox.receive_traffic hreceive
    | _ => simp [step, hpoint] at h
  | serveVip x =>
    simp only [step, Option.ite_none_right_eq_some] at h
    obtain ⟨-, h⟩ := h
    cases hq : s.proc.enterVipQueue with
    | nil =>
      simp only [hq, Option.some.injEq] at h
      exact h ▸ .keeps rfl
    | cons message rest =>
      simp only [hq, Option.some.injEq] at h
      exact h ▸ .keeps (serve_mailbox ..)
  | serveOrdinary x =>
    simp only [step, Option.ite_none_right_eq_some] at h
    obtain ⟨-, h⟩ := h
    split at h
    · obtain rfl := Option.some.inj h
      exact .keeps (serve_mailbox ..)
    · obtain rfl := Option.some.inj h
      exact .keeps rfl
  | log logged =>
    simp only [step, Option.ite_none_right_eq_some] at h
    obtain ⟨-, h⟩ := h
    cases logged with
    | ok u =>
      obtain rfl := Option.some.inj h
      exact .keeps rfl
    | error e =>
      obtain rfl := Option.some.inj h
      exact .keeps rfl

theorem arrived_eq_receivedOf (s : CashierSystem C) (vip : Bool) (a : CashierAction C) :
    s.arrived vip a = receivedOf (ofEntryClass vip) (s.received a) := by
  unfold arrived receivedOf ofEntryClass
  cases s.received a with
  | none => rfl
  | some msg => by_cases hclass : entryClass msg = some vip <;> simp [hclass]

/-- Both waits keep the order: the one in the register queue and the one in the queue of the
class. -/
structure Arriving (x : (CashierSystem C × QueueHistory) × (Bool → List RegisterMQMessage)) :
    Prop where
  waiting : InOrder x.1
  passage : ∀ vip, x.1.1.mailbox.Passage (ofEntryClass vip) vip.toNat (x.2 vip) (x.1.2.received vip)

theorem Arriving.inSendingOrder
    {x : (CashierSystem C × QueueHistory) × (Bool → List RegisterMQMessage)} (hx : Arriving x) :
    InSendingOrder x := by
  intro vip
  rw [hx.waiting vip, (hx.passage vip).order]

theorem Arriving.step [DecidableEq C] {parkSize : ℕ}
    {x y : (CashierSystem C × QueueHistory) × (Bool → List RegisterMQMessage)}
    {a : CashierAction C} (hx : Arriving x) (ha : a.SendsByClass)
    (h : (arrivalMachine C parkSize).step x a = some y) : Arriving y := by
  obtain ⟨hqueue, hsent⟩ := Machine.observe_step.mp h
  refine ⟨hx.waiting.step hqueue, ?_⟩
  intro vip
  obtain ⟨hstep, hrecord⟩ := Machine.observe_step.mp hqueue
  rw [← hsent, ← hrecord]
  dsimp only [recordQueues]
  rw [arrived_eq_receivedOf]
  exact (hx.passage vip).step (step_traffic hstep) fun e he => ha e he vip

theorem arriving_init (tokens : ℕ) :
    Arriving (((init tokens : CashierSystem C), QueueHistory.empty), fun _ => []) where
  waiting vip := by cases vip <;> rfl
  passage vip := Mailbox.passage_empty (ofEntryClass vip) vip.toNat tokens

/-- The request that is received first has the highest priority. -/
theorem Arriving.receivesVipFirst
    {x : (CashierSystem C × QueueHistory) × (Bool → List RegisterMQMessage)} (hx : Arriving x)
    (a : CashierAction C) : x.1.1.ReceivesVipFirst a := by
  intro harrived
  obtain ⟨hordered, hordinary, -⟩ := hx.passage false
  have hvip := (hx.passage true).priority
  rw [arrived_eq_receivedOf] at harrived
  cases a with
  | handle y =>
    unfold received at harrived
    cases hpoint : x.1.1.point with
    | woken token =>
      cases hqueue : x.1.1.mailbox.queue with
      | nil => simp [hpoint, Mailbox.receive, hqueue, receivedOf] at harrived
      | cons e queue =>
        rw [hqueue] at hordered hordinary hvip
        have hclass : ofEntryClass false e.2 = true := by
          by_contra hother
          simp [hpoint, Mailbox.receive, hqueue, receivedOf, hother] at harrived
        have hzero := hordinary e List.mem_cons_self hclass
        apply List.filter_eq_nil_iff.mpr
        intro msg hmsg hentry
        rw [hqueue] at hmsg
        obtain ⟨f, hf, rfl⟩ := List.mem_map.mp hmsg
        have hone := hvip f hf hentry
        obtain rfl | hf := List.mem_cons.mp hf
        · rw [hzero] at hone
          cases hone
        · have hle := hordered.le_head hf
          rw [hzero, hone] at hle
          cases hle
    | _ => simp [hpoint, receivedOf] at harrived
  | _ => exact absurd rfl harrived

/-- In every run in which the clients send their entry requests with the priority of their class:
in each state the handled requests of a class, those in its queue and those in the register queue
are the sent ones in order, and an ordinary request is received only when no VIP's is there. -/
theorem sendingOrder_of_sendsByClass [DecidableEq C] (parkSize tokens : ℕ)
    (as : List (CashierAction C))
    (has : (arrivalMachine C parkSize).Meets (fun _ a => a.SendsByClass)
      ((init tokens, .empty), fun _ => []) as) :
    (arrivalMachine C parkSize).Always InSendingOrder ((init tokens, .empty), fun _ => []) as ∧
      (arrivalMachine C parkSize).Meets (fun x a => x.1.1.ReceivesVipFirst a)
        ((init tokens, .empty), fun _ => []) as := by
  constructor
  · exact Machine.always_of_meets (I := Arriving) (fun _ hx => hx.inSendingOrder)
      (fun _ _ _ hx ha h => hx.step ha h) (arriving_init tokens) has
  · exact Machine.Meets.of_invariant (I := Arriving)
      (fun _ a _ hx ha h => ⟨hx.step ha h, hx.receivesVipFirst a⟩) (arriving_init tokens) has

/-- Two ordinary clients and then a VIP send their requests before the cashier wakes up; it
receives the VIP's first and answers it. -/
def overtakenRun : List (CashierAction Bool) :=
  let request (pid : Pid) (vip : Bool) : RegisterMQMessage :=
    ⟨pid, .enterPark, .enterPark ⟨false, vip, if vip then .vip else .h2⟩⟩
  [.mailbox (.send false 0 (request 7 false)), .mailbox (.signal false),
    .mailbox (.send false 0 (request 8 false)), .mailbox (.send true 1 (request 9 true)),
    .mailbox (.signal true), .check, .wake true, .handle (.faultless 9 0),
    .serveVip (.faultless 9 0), .serveVip (.faultless 9 0)]

theorem overtakenRun_inSendingOrder :
    (arrivalMachine Bool 10).Always InSendingOrder ((init 0, .empty), fun _ => []) overtakenRun ∧
      (arrivalMachine Bool 10).Meets (fun x a => x.1.1.ReceivesVipFirst a)
        ((init 0, .empty), fun _ => []) overtakenRun :=
  sendingOrder_of_sendsByClass 10 0 overtakenRun (by decide)

end CashierSystem
end AmusementPark.Cashier
