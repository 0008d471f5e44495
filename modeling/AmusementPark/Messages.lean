import AmusementPark.SimulationData

/-! # The messages of the park

The message types that travel on the register, attraction, restaurant and
client queues. The type tag of a message is an `int` and may hold any value;
the content is a variant of its own. Prices are exact rationals in place of
`float`.
-/
namespace AmusementPark

/-! ## Requests to the cashier -/

structure EnterPark where
  hasChild : Bool
  isVip : Bool
  ticketType : TicketType
deriving DecidableEq

structure ExitPark where
  visitedRestaurant : Bool
deriving DecidableEq

inductive RegisterMessageType where
  | enterPark
  | exitPark
  | other (raw : ℤ)
deriving DecidableEq

inductive RegisterMessageContent where
  | enterPark (content : EnterPark)
  | exitPark (content : ExitPark)
deriving DecidableEq

structure RegisterMQMessage where
  senderPID : Pid
  mType : RegisterMessageType
  content : RegisterMessageContent
deriving DecidableEq

/-! ## Requests to attractions and to the restaurant -/

structure EnterAttraction where
  hasChild : Bool
  personData : PersonData
  childData : PersonData
deriving DecidableEq

inductive AttractionMessageType where
  | enterAttraction
  | exitAttraction
  | other (raw : ℤ)
deriving DecidableEq

inductive AttractionMessageContent where
  | enterAttraction (content : EnterAttraction)
  | emptyMessage
deriving DecidableEq

structure AttractionMQMessage where
  senderPID : Pid
  mType : AttractionMessageType
  content : AttractionMessageContent
deriving DecidableEq

structure EnterRestaurant where
  hasChild : Bool
  fromPark : Bool
deriving DecidableEq

inductive RestaurantMessageType where
  | enterRestaurant
  | exitRestaurant
  | other (raw : ℤ)
deriving DecidableEq

inductive RestaurantMessageContent where
  | enterRestaurant (content : EnterRestaurant)
  | emptyMessage
deriving DecidableEq

structure RestaurantMQMessage where
  senderPID : Pid
  mType : RestaurantMessageType
  content : RestaurantMessageContent
deriving DecidableEq

/-! ## Messages on a client's reply queue -/

inductive ClientMessageType where
  | parkEntryPermit
  | attractionEntryPermit
  | bill
  | ack
deriving DecidableEq

inductive ClientMessageContent where
  | parkEntryPermit (allowed : Bool)
  | attractionEntryPermit (allowed : Bool) (leaveSemaphoreID : ℕ)
  | bill (price : ℚ)
  | emptyMessage
deriving DecidableEq

structure ClientMQMessage where
  senderPID : Pid
  mType : ClientMessageType
  content : ClientMessageContent
deriving DecidableEq

/-- The confirmation a client sends back. -/
def ackMsg (clientPID : Pid) : ClientMQMessage := ⟨clientPID, .ack, .emptyMessage⟩

/-- One person, or two with a child. -/
def partySize (hasChild : Bool) : ℕ := 1 + hasChild.toNat

end AmusementPark
