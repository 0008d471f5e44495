import AmusementPark.Worker.ReplyExchange
import AmusementPark.Library.AssocTotal

/-! # The cashier's request handlers

`CashierProc` keeps the registered clients, a counter of the people in the
park and two queues of entry requests. The handlers below are functions of that
state, of the shared data they read, and of what the calls out of the process
return.
-/
namespace AmusementPark.Cashier
open Library

structure ClientData where
  hasChild : Bool
  vip : Bool
  entryTime : ℤ
  ticketType : TicketType
deriving DecidableEq

/-- The people one registered client stands for. -/
def ClientData.people (data : ClientData) : ℕ := partySize data.hasChild

structure CashierProc where
  terminated : Bool
  clients : AList fun _ : Pid => ClientData
  clientCounter : ℤ
  enterVipQueue : List RegisterMQMessage
  enterQueue : List RegisterMQMessage
deriving DecidableEq

namespace CashierProc

/-- The state after `pInitImpl`. -/
def init : CashierProc := ⟨false, ∅, 0, [], []⟩

/-- The sum over `m_clients` of `1 + hasChild`. -/
def registeredPeople (c : CashierProc) : ℕ := assocTotal ClientData.people c.clients

/-- Registration of a client that confirmed its permit. -/
def register (c : CashierProc) (pid : Pid) (content : EnterPark) (now : ℤ) : CashierProc :=
  { c with
    clientCounter := c.clientCounter + partySize content.hasChild
    clients := c.clients.insert pid ⟨content.hasChild, content.isVip, now, content.ticketType⟩ }

/-- `pRegisterClient`; `false` only if no more clients can be registered. -/
def pRegisterClient (isOpen : Bool) (parkSize : ℕ) (message : RegisterMQMessage)
    (x : ReplyOutcome) (c : CashierProc) : Except Exn Bool × CashierProc :=
  match message.content with
  -- std::get throws; the catch block logs and falls through to the final return
  | .exitPark _ => (x.caught.map fun _ => true, c)
  | .enterPark content =>
    if (parkSize : ℤ) < c.clientCounter + partySize content.hasChild ∧ isOpen = true then
      (.ok false, c)
    else match x.permitHandshake isOpen with
      | .error _ => (x.caught.map fun _ => true, c)
      | .ok false => (.ok true, c)
      | .ok true => (.ok true, c.register message.senderPID content x.now)

def pRemoveClient (pid : Pid) (c : CashierProc) : CashierProc :=
  match c.clients.lookup pid with
  | none => c
  | some data => { c with
      clientCounter := c.clientCounter - data.people
      clients := c.clients.erase pid }

/-- Conversion of a `time_t` to `int`. -/
def toInt (n : ℤ) : ℤ := n.bmod (2 ^ 32)

/-- `pCalculatePrice`, for the client data found under the PID. -/
def pCalculatePrice (data : ClientData) (now : ℤ) (usedRestaurant : Bool) : ℚ :=
  let ticketData := ticketConfig data.ticketType
  let overtime := toInt (data.entryTime + ticketData.time - now)
  let price := if 0 < overtime then ticketData.price * (1 + overtime / ticketData.time)
    else ticketData.price
  let price := if data.hasChild then price * (3 / 2) else price
  if usedRestaurant then price + (40 + 20 * data.hasChild.toNat) else price

/-- `pHandleExitPark`: how it ends, and the price of the bill it has put on the client's queue. -/
def pHandleExitPark (message : RegisterMQMessage) (x : ReplyOutcome) (c : CashierProc) :
    Except Exn Unit × Option ℚ :=
  match c.clients.lookup message.senderPID with
  | none => (x.logged, none)
  | some data => match message.content with
    | .enterPark _ => (x.caught, none)
    | .exitPark content =>
      if data.vip && !content.visitedRestaurant then
        match x.logged with
        | .ok () => (.ok (), none)
        | .error _ => (x.caught, none)
      else
        let bill := if x.delivered then
          some (pCalculatePrice data x.now content.visitedRestaurant) else none
        match x.billHandshake with
        | .ok () => (.ok (), bill)
        | .error _ => (x.caught, bill)

def pHandleEnterPark (message : RegisterMQMessage) (c : CashierProc) : Except Exn CashierProc :=
  match message.content with
  | .exitPark _ => .error .badVariantAccess
  | .enterPark content => if content.isVip then
      .ok { c with enterVipQueue := c.enterVipQueue ++ [message] }
    else .ok { c with enterQueue := c.enterQueue ++ [message] }

/-- `pHandleRegisterMQ` once it has taken a message. An exit deregisters the sender whether or
not `pHandleExitPark` throws; the outer `catch` only reports. -/
def pHandleRegisterMQ (registerMsg : RegisterMQMessage) (x : ReplyOutcome) (c : CashierProc) :
    CashierProc :=
  match registerMsg.mType with
  | .enterPark => match pHandleEnterPark registerMsg c with
    | .ok d => d
    | .error _ => c
  | .exitPark => match (pHandleExitPark registerMsg x c).1 with
    | .error _ => pRemoveClient registerMsg.senderPID c
    | .ok () => pRemoveClient registerMsg.senderPID c
  | .other _ => c

/-- `HandleSigTerm`: while the park is closed it drops all clients. -/
def handleSigTerm (isOpen : Bool) (c : CashierProc) : CashierProc :=
  if isOpen then c else { c with clients := ∅, terminated := true, clientCounter := 0 }

/-! ## What each handler does to the registered clients -/

/-- The inputs on which `pRegisterClient` registers the sender: an entry request that fits into
the open park and that the client confirms. -/
def Admits (isOpen : Bool) (parkSize : ℕ) (message : RegisterMQMessage) (x : ReplyOutcome)
    (c : CashierProc) : Prop :=
  ∃ content, message.content = .enterPark content ∧ isOpen = true ∧
    c.clientCounter + partySize content.hasChild ≤ parkSize ∧ x.permitHandshake true = .ok true

theorem pRegisterClient_state (isOpen : Bool) (parkSize : ℕ) (message : RegisterMQMessage)
    (x : ReplyOutcome) (c : CashierProc) :
    (∃ content, message.content = .enterPark content ∧ isOpen = true ∧
      c.clientCounter + partySize content.hasChild ≤ parkSize ∧
      x.permitHandshake true = .ok true ∧
      pRegisterClient isOpen parkSize message x c =
        (.ok true, c.register message.senderPID content x.now)) ∨
    (¬ Admits isOpen parkSize message x c ∧
      (pRegisterClient isOpen parkSize message x c).2 = c) := by
  cases hcontent : message.content with
  | exitPark content =>
    right
    simp [Admits, pRegisterClient, hcontent]
  | enterPark content =>
    by_cases hfull : (parkSize : ℤ) < c.clientCounter + partySize content.hasChild ∧
        isOpen = true
    · right
      simp only [Admits, pRegisterClient, hcontent, hfull, and_self, if_true, and_true]
      rintro ⟨content', heq, -, hfits, -⟩
      obtain rfl := RegisterMessageContent.enterPark.inj heq
      omega
    · cases hhand : x.permitHandshake isOpen with
      | error e =>
        right
        simp only [pRegisterClient, hcontent, hfull, if_false, hhand, and_true]
        rintro ⟨-, -, rfl, -, hok⟩
        simp [hhand] at hok
      | ok answer => cases answer with
        | false =>
          right
          simp only [pRegisterClient, hcontent, hfull, if_false, hhand, and_true]
          rintro ⟨-, -, rfl, -, hok⟩
          simp [hhand] at hok
        | true =>
          left
          have hopen := (ReplyOutcome.permitHandshake_eq_true.mp hhand).1
          have hfits : c.clientCounter + partySize content.hasChild ≤ parkSize := by
            by_contra hlt
            exact hfull ⟨by omega, hopen⟩
          refine ⟨content, rfl, hopen, hfits, hopen ▸ hhand, ?_⟩
          simp only [pRegisterClient, hcontent, hfull, if_false, hhand]

/-- `pRegisterClient` leaves both request queues and the flag alone. -/
theorem pRegisterClient_frame (isOpen : Bool) (parkSize : ℕ) (message : RegisterMQMessage)
    (x : ReplyOutcome) (c : CashierProc) :
    (pRegisterClient isOpen parkSize message x c).2.enterVipQueue = c.enterVipQueue ∧
      (pRegisterClient isOpen parkSize message x c).2.enterQueue = c.enterQueue ∧
      (pRegisterClient isOpen parkSize message x c).2.terminated = c.terminated := by
  obtain ⟨content, -, -, -, -, h⟩ | ⟨-, h⟩ := pRegisterClient_state isOpen parkSize message x c
  · rw [h]
    exact ⟨rfl, rfl, rfl⟩
  · rw [h]
    exact ⟨rfl, rfl, rfl⟩

/-- An exit message deregisters its sender, whatever happens to the bill. -/
theorem pHandleRegisterMQ_exit (registerMsg : RegisterMQMessage) (x : ReplyOutcome)
    (c : CashierProc) (h : registerMsg.mType = .exitPark) :
    pHandleRegisterMQ registerMsg x c = pRemoveClient registerMsg.senderPID c := by
  unfold pHandleRegisterMQ
  rw [h]
  dsimp only
  split <;> rfl

/-- Every other message leaves the registered clients and the counter alone. -/
theorem pHandleRegisterMQ_other (registerMsg : RegisterMQMessage) (x : ReplyOutcome)
    (c : CashierProc) (h : registerMsg.mType ≠ .exitPark) :
    (pHandleRegisterMQ registerMsg x c).clients = c.clients ∧
      (pHandleRegisterMQ registerMsg x c).clientCounter = c.clientCounter := by
  unfold pHandleRegisterMQ
  cases hm : registerMsg.mType with
  | exitPark => exact absurd hm h
  | other raw => exact ⟨rfl, rfl⟩
  | enterPark =>
    unfold pHandleEnterPark
    cases registerMsg.content with
    | exitPark content => exact ⟨rfl, rfl⟩
    | enterPark content => by_cases hvip : content.isVip = true <;> simp [hvip]

theorem pRemoveClient_frame (pid q : Pid) (c : CashierProc) (h : pid ≠ q) :
    (pRemoveClient pid c).clients.lookup q = c.clients.lookup q ∧
      (pRemoveClient pid c).terminated = c.terminated := by
  unfold pRemoveClient
  cases c.clients.lookup pid with
  | none => exact ⟨rfl, rfl⟩
  | some data => exact ⟨AList.lookup_erase_ne h.symm, rfl⟩

theorem mem_pRemoveClient {pid q : Pid} {c : CashierProc} :
    q ∈ (pRemoveClient pid c).clients ↔ q ∈ c.clients ∧ pid ≠ q := by
  unfold pRemoveClient
  cases h : c.clients.lookup pid with
  | none =>
    refine ⟨fun hq => ⟨hq, ?_⟩, And.left⟩
    rintro rfl
    exact AList.lookup_eq_none.mp h hq
  | some data => simp [AList.mem_erase, and_comm, ne_comm]

/-- A message of one client leaves the record of every other one alone. -/
theorem pHandleRegisterMQ_frame (registerMsg : RegisterMQMessage) (x : ReplyOutcome)
    (c : CashierProc) (q : Pid) (h : registerMsg.senderPID ≠ q) :
    (pHandleRegisterMQ registerMsg x c).clients.lookup q = c.clients.lookup q ∧
      (pHandleRegisterMQ registerMsg x c).terminated = c.terminated := by
  by_cases hm : registerMsg.mType = .exitPark
  · rw [pHandleRegisterMQ_exit registerMsg x c hm]
    exact pRemoveClient_frame registerMsg.senderPID q c h
  · refine ⟨by rw [(pHandleRegisterMQ_other registerMsg x c hm).1], ?_⟩
    unfold pHandleRegisterMQ pHandleEnterPark
    cases hm' : registerMsg.mType with
    | exitPark => exact absurd hm' hm
    | other raw => rfl
    | enterPark =>
      cases registerMsg.content with
      | exitPark content => rfl
      | enterPark content => by_cases hvip : content.isVip = true <;> simp [hvip]

/-- So does the registration of one client. -/
theorem pRegisterClient_lookup_of_ne (isOpen : Bool) (parkSize : ℕ)
    (message : RegisterMQMessage) (x : ReplyOutcome) (c : CashierProc) (q : Pid)
    (h : message.senderPID ≠ q) :
    (pRegisterClient isOpen parkSize message x c).2.clients.lookup q = c.clients.lookup q := by
  obtain ⟨content, -, -, -, -, hreg⟩ | ⟨-, hkeep⟩ :=
    pRegisterClient_state isOpen parkSize message x c
  · rw [hreg]
    exact AList.lookup_insert_ne h.symm
  · rw [hkeep]

theorem handleSigTerm_of_live {isOpen : Bool} {c : CashierProc}
    (h : (c.handleSigTerm isOpen).terminated = false) : c.handleSigTerm isOpen = c := by
  unfold handleSigTerm at h ⊢
  cases isOpen with
  | true => rfl
  | false => cases h

/-- `pRemoveClient` takes the removed people off the counter. -/
theorem pRemoveClient_people (pid : Pid) (c : CashierProc) :
    (pRemoveClient pid c).clientCounter - (pRemoveClient pid c).registeredPeople =
      c.clientCounter - c.registeredPeople ∧
    (pRemoveClient pid c).clientCounter ≤ c.clientCounter := by
  unfold pRemoveClient
  cases h : c.clients.lookup pid with
  | none => exact ⟨rfl, le_rfl⟩
  | some data =>
    have htotal := assocTotal_erase ClientData.people h
    simp only [registeredPeople]
    omega

/-- A new PID is counted once more; a PID that is registered already loses its old entry. -/
theorem register_people (c : CashierProc) (pid : Pid) (content : EnterPark) (now : ℤ) :
    (c.register pid content now).registeredPeople =
      assocTotal ClientData.people (c.clients.erase pid) + partySize content.hasChild :=
  assocTotal_insert ClientData.people c.clients pid _

theorem partySize_pos (hasChild : Bool) : 0 < partySize hasChild := by
  unfold partySize
  omega

end CashierProc
end AmusementPark.Cashier
