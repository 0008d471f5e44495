import AmusementPark.Worker.ReplyExchange
import AmusementPark.Worker.AttractionHandler

/-! # The restaurant's request handlers

`RestaurantProc` runs one round at a time. A client that came from outside the
park gets its bill here, when its exit message finds it in the handler of the
current round.
-/
namespace AmusementPark.Restaurant
open Worker

/-- The members of `RestaurantProc` and the two flags its signal handlers set. -/
structure RestaurantProc where
  handler : Option AttractionHandler
  enterQueue : List RestaurantMQMessage
  paused : Bool
  evac : Bool

namespace RestaurantProc

/-- The state after `pInitImpl`. -/
def init : RestaurantProc := ⟨none, [], false, false⟩

/-- `pRegisterClient` on a handler that is being filled. -/
def pRegisterClient (isOpen : Bool) (cfg : AttractionConfig) (message : RestaurantMQMessage)
    (x : ReplyOutcome) (handler : AttractionHandler) : Except Exn Bool × AttractionHandler :=
  match message.content with
  | .emptyMessage => (x.caught.map fun _ => true, handler)
  | .enterRestaurant content =>
    if cfg.maxClientsPerHandler < handler.getClientCount + partySize content.hasChild ∧
        isOpen = true then (.ok false, handler)
    else match x.permitHandshake isOpen with
      | .error _ => (x.caught.map fun _ => true, handler)
      | .ok false => (.ok true, handler)
      | .ok true => (.ok true,
          (handler.addClient message.senderPID content.hasChild content.fromPark).2)

/-- `pSendBill`: how it ends, and the price of the bill it tries to send. -/
def pSendBill (pid : Pid) (x : ReplyOutcome) (r : RestaurantProc) : Except Exn Unit × Option ℚ :=
  match r.handler with
  | none => (.ok (), none)
  | some handler => match handler.clientList.lookup pid with
    | none => (.ok (), none)
    | some clientData => if clientData.fromPark then (.ok (), none) else
      let bill : ℚ := 40 + 20 * clientData.hasChild.toNat
      match x.billHandshake with
      | .ok () => (.ok (), some bill)
      | .error _ => (x.caught, some bill)

def pRemoveClient (pid : Pid) (r : RestaurantProc) : RestaurantProc :=
  { r with handler := r.handler.map fun h => (h.removeClient pid).2 }

def pHandleEnterRestaurant (message : RestaurantMQMessage) (r : RestaurantProc) :
    RestaurantProc :=
  { r with enterQueue := r.enterQueue ++ [message] }

/-- `pHandleRestaurantMQ` once it has taken a message, with the bill it tries to send. The
client is removed whether or not `pSendBill` throws; the outer `catch` only reports. -/
def pHandleRestaurantMQ (clientMsg : RestaurantMQMessage) (x : ReplyOutcome)
    (r : RestaurantProc) : RestaurantProc × Option ℚ :=
  match clientMsg.mType with
  | .enterRestaurant => (pHandleEnterRestaurant clientMsg r, none)
  | .exitRestaurant =>
    let bill := pSendBill clientMsg.senderPID x r
    match bill.1 with
    | .error _ => (pRemoveClient clientMsg.senderPID r, bill.2)
    | .ok () => (pRemoveClient clientMsg.senderPID r, bill.2)
  | .other _ => (r, none)

/-- `pGetNextTimeout`; `-1` without a handler. -/
def pGetNextTimeout (now : ℤ) (r : RestaurantProc) : ℤ :=
  match r.handler with
  | none => -1
  | some handler => handler.finishTime - now

/-- `CloseAttraction` past its log message. -/
def closeAttraction (r : RestaurantProc) : RestaurantProc :=
  { r with handler := r.handler.map fun h => h.releaseClients.1 }

/-- A bill is tried exactly for a client that the current handler holds as coming from
outside. -/
theorem pSendBill_attempt (pid : Pid) (x : ReplyOutcome) (r : RestaurantProc) :
    (pSendBill pid x r).2.isSome = true ↔
      ∃ handler, r.handler = some handler ∧
        ∃ data, handler.clientList.lookup pid = some data ∧ data.fromPark = false := by
  unfold pSendBill
  cases r.handler with
  | none => simp
  | some handler =>
    cases hl : handler.clientList.lookup pid with
    | none => simp [hl]
    | some data =>
      cases hp : data.fromPark with
      | true => simp [hl, hp]
      | false =>
        simp only [hp, hl, Option.some.injEq, exists_eq_left', iff_true, Bool.false_eq_true,
          if_false]
        split <;> rfl

theorem pHandleRestaurantMQ_exit (clientMsg : RestaurantMQMessage) (x : ReplyOutcome)
    (r : RestaurantProc) (h : clientMsg.mType = .exitRestaurant) :
    pHandleRestaurantMQ clientMsg x r =
      (pRemoveClient clientMsg.senderPID r, (pSendBill clientMsg.senderPID x r).2) := by
  unfold pHandleRestaurantMQ
  rw [h]
  dsimp only
  split <;> rfl

theorem pHandleRestaurantMQ_other (clientMsg : RestaurantMQMessage) (x : ReplyOutcome)
    (r : RestaurantProc) (h : clientMsg.mType ≠ .exitRestaurant) :
    (pHandleRestaurantMQ clientMsg x r).1.handler = r.handler := by
  unfold pHandleRestaurantMQ
  cases hm : clientMsg.mType with
  | exitRestaurant => exact absurd hm h
  | enterRestaurant => rfl
  | other raw => rfl

/-- Only exits are billed. -/
theorem exit_of_bill {clientMsg : RestaurantMQMessage} {x : ReplyOutcome} {r : RestaurantProc}
    (h : (pHandleRestaurantMQ clientMsg x r).2.isSome = true) :
    clientMsg.mType = .exitRestaurant := by
  unfold pHandleRestaurantMQ at h
  split at h
  · cases h
  · assumption
  · cases h

/-- `pRegisterClient` adds the sender of a confirmed request, or nobody. -/
theorem pRegisterClient_state (isOpen : Bool) (cfg : AttractionConfig)
    (message : RestaurantMQMessage) (x : ReplyOutcome) (handler : AttractionHandler) :
    (∃ content, message.content = .enterRestaurant content ∧ isOpen = true ∧
      handler.getClientCount + partySize content.hasChild ≤ cfg.maxClientsPerHandler ∧
      x.permitHandshake true = .ok true ∧
      pRegisterClient isOpen cfg message x handler = (.ok true,
        (handler.addClient message.senderPID content.hasChild content.fromPark).2)) ∨
    (pRegisterClient isOpen cfg message x handler).2 = handler := by
  cases hcontent : message.content with
  | emptyMessage =>
    right
    simp [pRegisterClient, hcontent]
  | enterRestaurant content =>
    by_cases hfull : cfg.maxClientsPerHandler <
        handler.getClientCount + partySize content.hasChild ∧ isOpen = true
    · right
      simp only [pRegisterClient, hcontent, hfull, and_self, if_true]
    · cases hhand : x.permitHandshake isOpen with
      | error e =>
        right
        simp only [pRegisterClient, hcontent, hfull, if_false, hhand]
      | ok answer => cases answer with
        | false =>
          right
          simp only [pRegisterClient, hcontent, hfull, if_false, hhand]
        | true =>
          left
          have hopen := (ReplyOutcome.permitHandshake_eq_true.mp hhand).1
          have hfits : handler.getClientCount + partySize content.hasChild ≤
              cfg.maxClientsPerHandler := by
            by_contra hlt
            exact hfull ⟨by omega, hopen⟩
          refine ⟨content, rfl, hopen, hfits, hopen ▸ hhand, ?_⟩
          simp only [pRegisterClient, hcontent, hfull, if_false, hhand]

/-- The record with which `pRegisterClient` enters the sender in the handler, if it does. -/
def admission (isOpen : Bool) (cfg : AttractionConfig) (message : RestaurantMQMessage)
    (x : ReplyOutcome) (handler : AttractionHandler) : Option HandlerClientData :=
  if message.senderPID ∈ handler.clientList then none
  else (pRegisterClient isOpen cfg message x handler).2.clientList.lookup message.senderPID

/-- An admission enters the data of the request, after a confirmed handshake. -/
theorem admission_eq_some {isOpen : Bool} {cfg : AttractionConfig} {message : RestaurantMQMessage}
    {x : ReplyOutcome} {handler : AttractionHandler} {data : HandlerClientData}
    (h : admission isOpen cfg message x handler = some data) :
    message.senderPID ∉ handler.clientList ∧
      (pRegisterClient isOpen cfg message x handler).1 = .ok true ∧
      (pRegisterClient isOpen cfg message x handler).2.clientList =
        handler.clientList.insert message.senderPID data ∧
      x.permitHandshake true = .ok true ∧ ∃ content, message.content = .enterRestaurant content ∧
        data = ⟨content.hasChild, content.fromPark⟩ := by
  simp only [admission, Option.ite_none_left_eq_some] at h
  obtain ⟨hnew, hlookup⟩ := h
  refine ⟨hnew, ?_⟩
  obtain ⟨content, hcontent, -, -, hhand, hreg⟩ | hkeep :=
    pRegisterClient_state isOpen cfg message x handler
  · rw [hreg] at hlookup ⊢
    rw [AttractionHandler.addClient_lookup, if_pos ⟨rfl, hnew⟩, Option.some.injEq] at hlookup
    subst hlookup
    refine ⟨rfl, ?_, hhand, content, hcontent, rfl⟩
    simp [AttractionHandler.addClient, hnew]
  · rw [hkeep, AList.lookup_eq_none.mpr hnew] at hlookup
    cases hlookup

/-- Without an admission the client list stays as it is. -/
theorem admission_eq_none {isOpen : Bool} {cfg : AttractionConfig} {message : RestaurantMQMessage}
    {x : ReplyOutcome} {handler : AttractionHandler}
    (h : admission isOpen cfg message x handler = none) :
    (pRegisterClient isOpen cfg message x handler).2.clientList = handler.clientList := by
  obtain ⟨content, -, -, -, -, hreg⟩ | hkeep :=
    pRegisterClient_state isOpen cfg message x handler
  · by_cases hmem : message.senderPID ∈ handler.clientList
    · simp [hreg, AttractionHandler.addClient, hmem]
    · rw [admission, if_neg hmem, hreg, AttractionHandler.addClient_lookup,
        if_pos ⟨rfl, hmem⟩] at h
      cases h
  · rw [hkeep]

end RestaurantProc
end AmusementPark.Restaurant
