import AmusementPark.Attraction.Run
import AmusementPark.Worker.Traffic

/-! # The requests to an attraction

All messages to an attraction have the same priority, so they are received in
the order in which they were sent. An entry request then waits until
`pRegisterClient` returns true for it, also while the attraction is closed.
-/
namespace AmusementPark.Attraction
open Library Worker

def isEntryRequest (msg : AttractionMQMessage) : Bool := msg.mType = .enterAttraction

def AttractionAction.sent {C : Type*} : AttractionAction C → Option (ℕ × AttractionMQMessage)
  | .mailbox a => a.sent
  | _ => none

/-- The priority of `pSendAttractionMQMessage`. -/
def AttractionAction.SendsAtZero {C : Type*} (a : AttractionAction C) : Prop :=
  ∀ e ∈ a.sent, e.1 = 0

instance {C : Type*} (a : AttractionAction C) : Decidable a.SendsAtZero :=
  inferInstanceAs (Decidable (∀ e ∈ a.sent, _))

namespace AttractionSystem
variable {C : Type*}

/-- The message the step takes from the attraction's queue. -/
def received (s : AttractionSystem C) : AttractionAction C → Option AttractionMQMessage
  | .handle => match s.point with
    | .receiving _ => s.mailbox.receive.1
    | _ => none
  | _ => none

/-- The entry request that the step handles: the first one, when `pRegisterClient` returns true
for it. -/
def handled (cfg : AttractionConfig) (s : AttractionSystem C) :
    AttractionAction C → List AttractionMQMessage
  | .register x => match s.point, s.proc.enterQueue with
    | .filling _ newHandler, message :: _ =>
      match (AttractionProc.pRegisterClient s.isOpen cfg message x s.proc newHandler).1 with
      | .ok true => [message]
      | _ => []
    | _, _ => []
  | .registerThrows _ (.ok _) => match s.point, s.proc.enterQueue with
    | .filling _ _, message :: _ => [message]
    | _, _ => []
  | _ => []

/-- The attraction with the history of its requests. -/
def requestMachine (C : Type*) [DecidableEq C] (cfg : AttractionConfig) :
    Machine (AttractionSystem C × RequestHistory AttractionMQMessage) (AttractionAction C) :=
  (machine C cfg).observe fun r s a _ => r.record a.sent (s.received a) (s.handled cfg a)

/-- The messages in the order of their sending, the entry requests in that of their receipt. -/
def RequestsInOrder (x : AttractionSystem C × RequestHistory AttractionMQMessage) : Prop :=
  x.2.InOrder isEntryRequest x.1.mailbox x.1.proc.enterQueue

/-- What a step does to the queue and to the requests that wait. -/
structure RequestStep (cfg : AttractionConfig) (s : AttractionSystem C) (a : AttractionAction C)
    (t : AttractionSystem C) : Prop where
  traffic : s.mailbox.Traffic t.mailbox a.sent (s.received a)
  waiting : s.handled cfg a ++ t.proc.enterQueue =
    s.proc.enterQueue ++ receivedOf isEntryRequest (s.received a)

/-- A step that neither sends nor receives nor handles a request. -/
theorem RequestStep.keeps {cfg : AttractionConfig} {s t : AttractionSystem C}
    {a : AttractionAction C} (hsent : a.sent = none) (hreceived : s.received a = none)
    (hhandled : s.handled cfg a = []) (hmail : t.mailbox.queue = s.mailbox.queue)
    (hwaiting : t.proc.enterQueue = s.proc.enterQueue) : RequestStep cfg s a t where
  traffic := by
    rw [hsent, hreceived]
    exact .keeps hmail
  waiting := by simp [hhandled, hreceived, hwaiting, receivedOf]

theorem pHandleAttractionMQ_enterQueue (msg : AttractionMQMessage) (p : AttractionProc) :
    (AttractionProc.pHandleAttractionMQ msg p).enterQueue =
      p.enterQueue ++ receivedOf isEntryRequest (some msg) := by
  unfold AttractionProc.pHandleAttractionMQ
  cases hm : msg.mType with
  | enterAttraction =>
    simp [AttractionProc.pHandleEnterAttraction, receivedOf, isEntryRequest, hm]
  | exitAttraction => simp [AttractionProc.pRemoveClient, receivedOf, isEntryRequest, hm]
  | other raw => simp [receivedOf, isEntryRequest, hm]

theorem fill_requests {cfg : AttractionConfig} (s : AttractionSystem C) {id : ℕ}
    {newHandler : AttractionHandler} (hpoint : s.point = .filling id newHandler)
    (x : ReplyOutcome) :
    RequestStep cfg s (.register x) (s.fill cfg id newHandler x) := by
  have hmail : (s.fill cfg id newHandler x).mailbox = s.mailbox := by
    unfold fill
    cases s.proc.enterQueue with
    | nil => rfl
    | cons message rest =>
      dsimp only
      split <;> rfl
  refine ⟨?_, ?_⟩
  · exact .keeps (by rw [hmail])
  · have hnone : receivedOf isEntryRequest (s.received (.register x)) = [] := rfl
    rw [hnone, List.append_nil]
    unfold fill handled
    rw [hpoint]
    cases hqueue : s.proc.enterQueue with
    | nil => simp [hqueue]
    | cons message rest =>
      dsimp only
      rcases (AttractionProc.pRegisterClient s.isOpen cfg message x s.proc newHandler).1
        with e | _ | _
      · exact hqueue
      · exact hqueue
      · rfl

/-- A log message that throws stops the process and touches no request. -/
theorem logging_requests {s t u : AttractionSystem C} (logged : Except Exn Unit)
    (ht : t.mailbox = s.mailbox ∧ t.proc.enterQueue = s.proc.enterQueue)
    (hu : u.mailbox = s.mailbox ∧ u.proc.enterQueue = s.proc.enterQueue) :
    (t.logging logged u).mailbox.queue = s.mailbox.queue ∧
      (t.logging logged u).proc.enterQueue = s.proc.enterQueue := by
  cases logged with
  | error e => exact ⟨by rw [← ht.1]; rfl, ht.2⟩
  | ok _ => exact ⟨by rw [← hu.1]; rfl, hu.2⟩

/-- A client whose exchange a throwing signal handler cuts off is done with, unless the process
stops. -/
theorem registerThrows_requests [DecidableEq C] {cfg : AttractionConfig} {s t : AttractionSystem C}
    {paused : Bool} {caught : Except Exn Unit}
    (h : step cfg s (.registerThrows paused caught) = some t) :
    RequestStep cfg s (.registerThrows paused caught) t := by
  obtain ⟨id, newHandler, message, rest, hpoint, hqueue, rfl⟩ := registerThrows_step h
  cases caught with
  | error e => exact .keeps rfl rfl rfl rfl rfl
  | ok _ =>
    refine ⟨.keeps rfl, ?_⟩
    have hnone : receivedOf isEntryRequest
        (s.received (.registerThrows paused (.ok ()))) = [] := rfl
    rw [hnone, List.append_nil, hqueue]
    simp [handled, hpoint, hqueue, logging]

theorem step_requests [DecidableEq C] {cfg : AttractionConfig} {s t : AttractionSystem C}
    {a : AttractionAction C} (h : step cfg s a = some t) : RequestStep cfg s a t := by
  cases a with
  | mailbox a =>
    obtain ⟨m, hm, rfl⟩ := Option.map_eq_some_iff.mp h
    refine ⟨Mailbox.step_traffic hm, ?_⟩
    exact (List.append_nil _).symm
  | closePark =>
    obtain rfl := Option.some.inj h
    exact .keeps rfl rfl rfl rfl rfl
  | sigUsr1 logged =>
    obtain rfl := Option.some.inj h
    obtain ⟨hmail, hwaiting⟩ := logging_requests (s := s) logged
      (t := { s with proc := { s.proc with paused := true } })
      (u := { s with proc := AttractionProc.closeAttraction { s.proc with paused := true } })
      ⟨rfl, rfl⟩ ⟨rfl, rfl⟩
    exact .keeps rfl rfl rfl hmail hwaiting
  | sigUsr2 logged =>
    obtain rfl := Option.some.inj h
    obtain ⟨hmail, hwaiting⟩ := logging_requests (s := s) logged
      (t := { s with proc := { s.proc with paused := false } })
      (u := { s with proc := { s.proc with paused := false } }) ⟨rfl, rfl⟩ ⟨rfl, rfl⟩
    exact .keeps rfl rfl rfl hmail hwaiting
  | check now =>
    simp only [step, Option.ite_none_right_eq_some, Option.some.injEq] at h
    obtain ⟨-, rfl⟩ := h
    exact .keeps rfl rfl rfl rfl rfl
  | wake token =>
    cases hpoint : s.point with
    | waiting timeout =>
      cases token with
      | true =>
        simp only [step, hpoint, if_true, Option.ite_none_left_eq_some] at h
        obtain ⟨-, h⟩ := h
        obtain ⟨m, hm, rfl⟩ := Option.map_eq_some_iff.mp h
        exact ⟨Mailbox.take_traffic hm, (List.append_nil _).symm⟩
      | false =>
        simp only [step, hpoint, Bool.false_eq_true, if_false, Option.some.injEq] at h
        subst h
        exact .keeps rfl rfl rfl rfl rfl
    | _ => simp [step, hpoint] at h
  | finishCheck now =>
    cases hpoint : s.point with
    | woken token =>
      simp only [step, hpoint, Option.some.injEq] at h
      subst h
      exact .keeps rfl rfl rfl rfl rfl
    | _ => simp [step, hpoint] at h
  | testPaused =>
    cases hpoint : s.point with
    | checked token =>
      simp only [step, hpoint, Option.some.injEq] at h
      subst h
      exact .keeps rfl rfl rfl rfl rfl
    | _ => simp [step, hpoint] at h
  | receiveThrows =>
    cases hpoint : s.point with
    | receiving token =>
      simp only [step, hpoint, Option.some.injEq] at h
      subst h
      exact .keeps rfl rfl rfl rfl rfl
    | _ => simp [step, hpoint] at h
  | handle =>
    cases hpoint : s.point with
    | receiving token =>
      have hreceived : s.received .handle = s.mailbox.receive.1 := by simp only [received, hpoint]
      rcases hreceive : s.mailbox.receive with ⟨_ | msg, m⟩
      · simp only [step, hpoint, hreceive, Option.some.injEq] at h
        subst h
        rw [hreceive] at hreceived
        refine ⟨?_, ?_⟩
        · rw [hreceived]
          exact Mailbox.receive_traffic hreceive
        · rw [hreceived]
          exact (List.append_nil _).symm
      · simp only [step, hpoint, hreceive, Option.some.injEq] at h
        subst h
        rw [hreceive] at hreceived
        refine ⟨?_, ?_⟩
        · rw [hreceived]
          exact Mailbox.receive_traffic hreceive
        · rw [hreceived]
          exact pHandleAttractionMQ_enterQueue msg s.proc
    | _ => simp [step, hpoint] at h
  | decide =>
    simp only [step, Option.ite_none_right_eq_some, Option.some.injEq] at h
    obtain ⟨-, rfl⟩ := h
    exact .keeps rfl rfl rfl rfl rfl
  | create =>
    simp only [step, Option.ite_none_right_eq_some] at h
    obtain ⟨-, h⟩ := h
    split at h
    · obtain rfl := Option.some.inj h
      exact .keeps rfl rfl rfl rfl rfl
    · cases hfree : s.proc.handlers.firstFree with
      | none =>
        simp only [hfree, Option.some.injEq] at h
        exact h ▸ .keeps rfl rfl rfl rfl rfl
      | some id =>
        simp only [hfree, Option.some.injEq] at h
        exact h ▸ .keeps rfl rfl rfl rfl rfl
  | register x =>
    cases hpoint : s.point with
    | filling id newHandler =>
      simp only [step, hpoint, Option.some.injEq] at h
      exact h ▸ fill_requests s hpoint x
    | _ => simp [step, hpoint] at h
  | registerThrows paused caught => exact registerThrows_requests h
  | install =>
    cases hpoint : s.point with
    | installing id newHandler =>
      simp only [step, hpoint] at h
      split at h
      · obtain rfl := Option.some.inj h
        exact .keeps rfl rfl rfl rfl rfl
      · obtain rfl := Option.some.inj h
        exact .keeps rfl rfl rfl rfl rfl
    | _ => simp [step, hpoint] at h
  | start now =>
    cases hpoint : s.point with
    | starting id =>
      cases hget : s.proc.handlers.get id with
      | none =>
        simp only [step, hpoint, hget, Option.some.injEq] at h
        exact h ▸ .keeps rfl rfl rfl rfl rfl
      | some handler =>
        simp only [step, hpoint, hget, Option.some.injEq] at h
        exact h ▸ .keeps rfl rfl rfl rfl rfl
    | _ => simp [step, hpoint] at h
  | announce logged =>
    cases hpoint : s.point with
    | announcing id =>
      cases hget : s.proc.handlers.get id with
      | none =>
        simp only [step, hpoint, hget, Option.some.injEq] at h
        exact h ▸ .keeps rfl rfl rfl rfl rfl
      | some handler =>
        simp only [step, hpoint, hget, Option.some.injEq] at h
        obtain ⟨hmail, hwaiting⟩ := logging_requests (s := s) logged (t := s)
          (u := { s with point := .creating }) ⟨rfl, rfl⟩ ⟨rfl, rfl⟩
        exact h ▸ .keeps rfl rfl rfl hmail hwaiting
    | _ => simp [step, hpoint] at h

/-- The history with the state of the queue. -/
def RequestFlow (x : AttractionSystem C × RequestHistory AttractionMQMessage) : Prop :=
  x.2.Flow isEntryRequest x.1.mailbox x.1.proc.enterQueue

theorem RequestFlow.step [DecidableEq C] {cfg : AttractionConfig}
    {x y : AttractionSystem C × RequestHistory AttractionMQMessage} {a : AttractionAction C}
    (hx : RequestFlow x) (ha : a.SendsAtZero) (h : (requestMachine C cfg).step x a = some y) :
    RequestFlow y := by
  obtain ⟨hstep, hrecord⟩ := Machine.observe_step.mp h
  obtain ⟨htraffic, hwaiting⟩ := step_requests hstep
  rw [RequestFlow, ← hrecord]
  exact RequestHistory.Flow.step hx htraffic ha hwaiting

/-- In every run of the attraction: messages sent with one priority are received in the order in
which they were sent, and the entry requests handled so far, followed by `m_enterQueue`, are the
received ones in order. -/
theorem requestFlow_always [DecidableEq C] (attractionID tokens : ℕ)
    (cfg : AttractionConfig) {as : List (AttractionAction C)}
    (has : (requestMachine C cfg).Meets (fun _ a => a.SendsAtZero)
      (init attractionID cfg tokens, .empty) as) :
    (requestMachine C cfg).Always RequestsInOrder (init attractionID cfg tokens, .empty) as := by
  apply Machine.always_of_meets (I := RequestFlow) (fun _ hx => hx.inOrder)
    (fun _ _ _ hx ha h => hx.step ha h) ?_ has
  exact RequestHistory.flow_empty isEntryRequest tokens

end AttractionSystem
end AmusementPark.Attraction
