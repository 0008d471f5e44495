import AmusementPark.Restaurant.Run
import AmusementPark.Worker.Traffic

/-! # The requests to the restaurant

As at an attraction, the messages are received in the order in which they were
sent and the entry requests wait in `m_enterQueue`, here until the next round is
filled. A request that finds the round full stays in front.
-/
namespace AmusementPark.Restaurant
open Library Worker

def isEntryRequest (msg : RestaurantMQMessage) : Bool := msg.mType = .enterRestaurant

def RestaurantAction.sent {C : Type*} : RestaurantAction C → Option (ℕ × RestaurantMQMessage)
  | .mailbox a => a.sent
  | _ => none

/-- The priority of `pSendRestaurantMQMessage`. -/
def RestaurantAction.SendsAtZero {C : Type*} (a : RestaurantAction C) : Prop :=
  ∀ e ∈ a.sent, e.1 = 0

instance {C : Type*} (a : RestaurantAction C) : Decidable a.SendsAtZero :=
  inferInstanceAs (Decidable (∀ e ∈ a.sent, _))

namespace RestaurantSystem
variable {C : Type*}

/-- The message the step takes from the restaurant's queue. -/
def received (s : RestaurantSystem C) : RestaurantAction C → Option RestaurantMQMessage
  | .handle _ | .handleThrows _ _ => match s.point with
    | .checked _ => s.mailbox.receive.1
    | _ => none
  | _ => none

/-- The entry request that the step handles: the first one, when `pRegisterClient` returns true
for it. -/
def handled (cfg : AttractionConfig) (s : RestaurantSystem C) :
    RestaurantAction C → List RestaurantMQMessage
  | .register x => match s.point, s.proc.enterQueue with
    | .filling newHandler, message :: _ =>
      match (RestaurantProc.pRegisterClient s.isOpen cfg message x newHandler).1 with
      | .ok true => [message]
      | _ => []
    | _, _ => []
  | .registerThrows _ (.ok _) => match s.point, s.proc.enterQueue with
    | .filling _, message :: _ => [message]
    | _, _ => []
  | _ => []

/-- The restaurant with the history of its requests. -/
def requestMachine (C : Type*) [DecidableEq C] (cfg : AttractionConfig) :
    Machine (RestaurantSystem C × RequestHistory RestaurantMQMessage) (RestaurantAction C) :=
  (machine C cfg).observe fun r s a _ => r.record a.sent (s.received a) (s.handled cfg a)

def RequestsInOrder (x : RestaurantSystem C × RequestHistory RestaurantMQMessage) : Prop :=
  x.2.InOrder isEntryRequest x.1.mailbox x.1.proc.enterQueue

/-- What a step does to the queue and to the requests that wait. -/
structure RequestStep (cfg : AttractionConfig) (s : RestaurantSystem C) (a : RestaurantAction C)
    (t : RestaurantSystem C) : Prop where
  traffic : s.mailbox.Traffic t.mailbox a.sent (s.received a)
  waiting : s.handled cfg a ++ t.proc.enterQueue =
    s.proc.enterQueue ++ receivedOf isEntryRequest (s.received a)

theorem RequestStep.keeps {cfg : AttractionConfig} {s t : RestaurantSystem C}
    {a : RestaurantAction C} (hsent : a.sent = none) (hreceived : s.received a = none)
    (hhandled : s.handled cfg a = []) (hmail : t.mailbox.queue = s.mailbox.queue)
    (hwaiting : t.proc.enterQueue = s.proc.enterQueue) : RequestStep cfg s a t where
  traffic := by
    rw [hsent, hreceived]
    exact .keeps hmail
  waiting := by simp [hhandled, hreceived, hwaiting, receivedOf]

theorem pHandleRestaurantMQ_enterQueue (msg : RestaurantMQMessage) (x : ReplyOutcome)
    (r : RestaurantProc) : (RestaurantProc.pHandleRestaurantMQ msg x r).1.enterQueue =
      r.enterQueue ++ receivedOf isEntryRequest (some msg) := by
  cases hm : msg.mType with
  | enterRestaurant =>
    simp [RestaurantProc.pHandleRestaurantMQ, RestaurantProc.pHandleEnterRestaurant, receivedOf,
      isEntryRequest, hm]
  | exitRestaurant =>
    rw [RestaurantProc.pHandleRestaurantMQ_exit msg x r hm]
    simp [RestaurantProc.pRemoveClient, receivedOf, isEntryRequest, hm]
  | other raw => simp [RestaurantProc.pHandleRestaurantMQ, receivedOf, isEntryRequest, hm]

theorem fill_requests {cfg : AttractionConfig} (s : RestaurantSystem C)
    {newHandler : AttractionHandler} (hpoint : s.point = .filling newHandler) (x : ReplyOutcome) :
    RequestStep cfg s (.register x) (s.fill cfg newHandler x) := by
  have hmail : (s.fill cfg newHandler x).mailbox = s.mailbox := by
    unfold fill
    cases s.proc.enterQueue with
    | nil => rfl
    | cons message rest =>
      dsimp only
      split <;> rfl
  refine ⟨?_, ?_⟩
  · exact .keeps (by rw [hmail])
  · have hnone : receivedOf isEntryRequest (s.received (.register x)) = [] := rfl
    rw [hnone, List.append_nil]
    unfold fill handled
    rw [hpoint]
    cases hqueue : s.proc.enterQueue with
    | nil => simp [hqueue]
    | cons message rest =>
      dsimp only
      rcases (RestaurantProc.pRegisterClient s.isOpen cfg message x newHandler).1 with e | _ | _
      · exact hqueue
      · exact hqueue
      · rfl

theorem logging_requests {s t u : RestaurantSystem C} (logged : Except Exn Unit)
    (ht : t.mailbox = s.mailbox ∧ t.proc.enterQueue = s.proc.enterQueue)
    (hu : u.mailbox = s.mailbox ∧ u.proc.enterQueue = s.proc.enterQueue) :
    (t.logging logged u).mailbox.queue = s.mailbox.queue ∧
      (t.logging logged u).proc.enterQueue = s.proc.enterQueue := by
  cases logged with
  | error e => exact ⟨by rw [← ht.1]; rfl, ht.2⟩
  | ok _ => exact ⟨by rw [← hu.1]; rfl, hu.2⟩

/-- A client whose exchange a throwing signal handler cuts off is done with, unless the process
stops. -/
theorem registerThrows_requests [DecidableEq C] {cfg : AttractionConfig} {s t : RestaurantSystem C}
    {paused : Bool} {caught : Except Exn Unit}
    (h : step cfg s (.registerThrows paused caught) = some t) :
    RequestStep cfg s (.registerThrows paused caught) t := by
  obtain ⟨newHandler, message, rest, hpoint, hqueue, rfl⟩ := registerThrows_step h
  cases caught with
  | error e => exact .keeps rfl rfl rfl rfl rfl
  | ok _ =>
    refine ⟨.keeps rfl, ?_⟩
    have hnone : receivedOf isEntryRequest
        (s.received (.registerThrows paused (.ok ()))) = [] := rfl
    rw [hnone, List.append_nil, hqueue]
    simp [handled, hpoint, hqueue, logging]

theorem step_requests [DecidableEq C] {cfg : AttractionConfig} {s t : RestaurantSystem C}
    {a : RestaurantAction C} (h : step cfg s a = some t) : RequestStep cfg s a t := by
  cases a with
  | mailbox a =>
    obtain ⟨m, hm, rfl⟩ := Option.map_eq_some_iff.mp h
    exact ⟨Mailbox.step_traffic hm, (List.append_nil _).symm⟩
  | closePark | sigInt =>
    obtain rfl := Option.some.inj h
    exact .keeps rfl rfl rfl rfl rfl
  | sigUsr1 logged =>
    obtain rfl := Option.some.inj h
    obtain ⟨hmail, hwaiting⟩ := logging_requests (s := s) logged
      (t := { s with proc := { s.proc with paused := true } })
      (u := { s with proc := RestaurantProc.closeAttraction { s.proc with paused := true } })
      ⟨rfl, rfl⟩ ⟨rfl, rfl⟩
    exact .keeps rfl rfl rfl hmail hwaiting
  | sigUsr2 logged =>
    obtain rfl := Option.some.inj h
    obtain ⟨hmail, hwaiting⟩ := logging_requests (s := s) logged
      (t := { s with proc := { s.proc with paused := false } })
      (u := { s with proc := { s.proc with paused := false } }) ⟨rfl, rfl⟩ ⟨rfl, rfl⟩
    exact .keeps rfl rfl rfl hmail hwaiting
  | check now =>
    simp only [step, Option.ite_none_right_eq_some, Option.some.injEq] at h
    obtain ⟨-, rfl⟩ := h
    exact .keeps rfl rfl rfl rfl rfl
  | wake token =>
    cases hpoint : s.point with
    | waiting timeout =>
      cases token with
      | true =>
        simp only [step, hpoint, if_true, Option.ite_none_left_eq_some] at h
        obtain ⟨-, h⟩ := h
        obtain ⟨m, hm, rfl⟩ := Option.map_eq_some_iff.mp h
        exact ⟨Mailbox.take_traffic hm, (List.append_nil _).symm⟩
      | false =>
        simp only [step, hpoint, Bool.false_eq_true, if_false, Option.some.injEq] at h
        subst h
        exact .keeps rfl rfl rfl rfl rfl
    | _ => simp [step, hpoint] at h
  | finishCheck now =>
    cases hpoint : s.point with
    | woken token =>
      simp only [step, hpoint, Option.some.injEq] at h
      subst h
      refine .keeps rfl rfl rfl rfl ?_
      dsimp only
      split <;> rfl
    | _ => simp [step, hpoint] at h
  | receiveThrows =>
    cases hpoint : s.point with
    | checked token =>
      simp only [step, hpoint, Option.some.injEq] at h
      subst h
      exact .keeps rfl rfl rfl rfl rfl
    | _ => simp [step, hpoint] at h
  | handle x =>
    cases hpoint : s.point with
    | checked token =>
      have hreceived : s.received (.handle x) = s.mailbox.receive.1 := by
        simp only [received, hpoint]
      rcases hreceive : s.mailbox.receive with ⟨_ | msg, m⟩
      · simp only [step, hpoint, hreceive, Option.some.injEq] at h
        subst h
        rw [hreceive] at hreceived
        refine ⟨?_, ?_⟩
        · rw [hreceived]
          exact Mailbox.receive_traffic hreceive
        · rw [hreceived]
          exact (List.append_nil _).symm
      · simp only [step, hpoint, hreceive, Option.some.injEq] at h
        subst h
        rw [hreceive] at hreceived
        refine ⟨?_, ?_⟩
        · rw [hreceived]
          exact Mailbox.receive_traffic hreceive
        · rw [hreceived]
          exact pHandleRestaurantMQ_enterQueue msg x s.proc
    | _ => simp [step, hpoint] at h
  | handleThrows paused x =>
    obtain ⟨token, msg, m, hpoint, hreceive, -, u, hu, rfl⟩ := handle_of_handleThrows h
    simp only [step, hpoint, hreceive, Option.some.injEq] at hu
    have hreceived : s.received (.handleThrows paused x) = some msg := by
      simp only [received, hpoint, hreceive]
    rw [← hu]
    refine ⟨?_, ?_⟩
    · rw [hreceived]
      exact Mailbox.receive_traffic hreceive
    · rw [hreceived]
      exact pHandleRestaurantMQ_enterQueue msg x s.proc
  | decide =>
    simp only [step, Option.ite_none_right_eq_some, Option.some.injEq] at h
    obtain ⟨-, rfl⟩ := h
    exact .keeps rfl rfl rfl rfl rfl
  | register x =>
    cases hpoint : s.point with
    | filling newHandler =>
      simp only [step, hpoint, Option.some.injEq] at h
      exact h ▸ fill_requests s hpoint x
    | _ => simp [step, hpoint] at h
  | registerThrows paused caught => exact registerThrows_requests h
  | install =>
    cases hpoint : s.point with
    | installing newHandler =>
      simp only [step, hpoint] at h
      split at h
      · obtain rfl := Option.some.inj h
        exact .keeps rfl rfl rfl rfl rfl
      · obtain rfl := Option.some.inj h
        exact .keeps rfl rfl rfl rfl rfl
    | _ => simp [step, hpoint] at h
  | start now =>
    simp only [step, Option.ite_none_right_eq_some, Option.some.injEq] at h
    obtain ⟨-, rfl⟩ := h
    exact .keeps rfl rfl rfl rfl rfl
  | announce logged =>
    simp only [step, Option.ite_none_right_eq_some, Option.some.injEq] at h
    obtain ⟨-, rfl⟩ := h
    obtain ⟨hmail, hwaiting⟩ := logging_requests (s := s) logged (t := s)
      (u := { s with point := .loopHead }) ⟨rfl, rfl⟩ ⟨rfl, rfl⟩
    exact .keeps rfl rfl rfl hmail hwaiting

/-- The history with the state of the queue. -/
def RequestFlow (x : RestaurantSystem C × RequestHistory RestaurantMQMessage) : Prop :=
  x.2.Flow isEntryRequest x.1.mailbox x.1.proc.enterQueue

theorem RequestFlow.step [DecidableEq C] {cfg : AttractionConfig}
    {x y : RestaurantSystem C × RequestHistory RestaurantMQMessage} {a : RestaurantAction C}
    (hx : RequestFlow x) (ha : a.SendsAtZero) (h : (requestMachine C cfg).step x a = some y) :
    RequestFlow y := by
  obtain ⟨hstep, hrecord⟩ := Machine.observe_step.mp h
  obtain ⟨htraffic, hwaiting⟩ := step_requests hstep
  rw [RequestFlow, ← hrecord]
  exact RequestHistory.Flow.step hx htraffic ha hwaiting

/-- In every run of the restaurant whose messages have one priority, they are received as they
were sent, and the entry requests handled so far and those that wait are the received ones. -/
theorem requestFlow_always [DecidableEq C] (tokens : ℕ) (cfg : AttractionConfig)
    {as : List (RestaurantAction C)}
    (has : (requestMachine C cfg).Meets (fun _ a => a.SendsAtZero) (init tokens, .empty) as) :
    (requestMachine C cfg).Always RequestsInOrder (init tokens, .empty) as := by
  apply Machine.always_of_meets (I := RequestFlow) (fun _ hx => hx.inOrder)
    (fun _ _ _ hx ha h => hx.step ha h) ?_ has
  exact RequestHistory.flow_empty isEntryRequest tokens

end RestaurantSystem
end AmusementPark.Restaurant
