import AmusementPark.Worker.ReplyExchange

/-! # The client

What a client tells the cashier and the restaurant, and whether it waits for a
bill when it leaves them.
-/
namespace AmusementPark.Client

/-- `m_data`. -/
structure ClientData where
  isVip : Bool
  hasChild : Bool
  ticketType : TicketType
  personData : PersonData
  childData : PersonData
deriving DecidableEq

structure ClientProc where
  data : ClientData
  enteredPark : Bool
  visitedRestaurant : Bool
deriving DecidableEq

/-- One round of the client's loop in the park: which attraction it has tried and how the call
has ended. -/
inductive Visit where
  | attraction (attractionID : ℕ) (outcome : Except Exn Unit)
  | restaurant (outcome : Except Exn Bool)

namespace ClientProc

/-- The state after `pInitImpl` with the generated data. -/
def init (data : ClientData) : ClientProc := ⟨data, false, false⟩

/-- What `pEnterPark` tells the cashier. -/
def enterPark (data : ClientData) : EnterPark := ⟨data.hasChild, data.isVip, data.ticketType⟩

def enterParkMessage (pid : Pid) (c : ClientProc) : RegisterMQMessage :=
  ⟨pid, .enterPark, .enterPark (enterPark c.data)⟩

def enterRestaurantMessage (pid : Pid) (c : ClientProc) : RestaurantMQMessage :=
  ⟨pid, .enterRestaurant, .enterRestaurant ⟨c.data.hasChild, c.enteredPark⟩⟩

/-- One round of the loop; an exception is caught. -/
def visit (c : ClientProc) : Visit → ClientProc
  | .attraction _ _ => c
  | .restaurant (.ok true) => { c with visitedRestaurant := true }
  | .restaurant (.ok false) | .restaurant (.error _) => c

/-- `Run` from a successful `pEnterPark` to `pLeavePark`. -/
def stay (c : ClientProc) (visits : List Visit) : ClientProc :=
  visits.foldl visit { c with enteredPark := true }

/-- The message of `pLeavePark`, which does not use its argument. -/
def exitParkMessage (pid : Pid) (_visitedRestaurant : Bool) : RegisterMQMessage :=
  ⟨pid, .exitPark, .exitPark ⟨false⟩⟩

/-- `pLeavePark` past the sending of the exit message, with the result of the send: whether it
goes on to receive a bill. -/
def waitsForParkBill (c : ClientProc) (result : Bool) : Bool :=
  if c.data.isVip && !c.visitedRestaurant then false
  else if !result then false
  else true

/-- `pLeaveRestaurant` past the sending of the exit message: whether it goes on to receive a
bill. -/
def waitsForRestaurantBill (enteredPark clientQueue : Bool) : Bool :=
  if enteredPark || !clientQueue then false else true

theorem visit_data (c : ClientProc) (v : Visit) : (c.visit v).data = c.data := by
  cases v with
  | attraction attractionID outcome => rfl
  | restaurant outcome => rcases outcome with e | _ | _ <;> rfl

/-- A round sets `m_visitedRestaurant` exactly when `pVisitRestaurant` returns true. -/
theorem visit_visitedRestaurant (c : ClientProc) (v : Visit) :
    (c.visit v).visitedRestaurant = true ↔
      c.visitedRestaurant = true ∨ v = .restaurant (.ok true) := by
  cases v with
  | attraction attractionID outcome => simp [visit]
  | restaurant outcome => rcases outcome with e | _ | _ <;> simp [visit]

theorem foldl_visit_data (c : ClientProc) (visits : List Visit) :
    (visits.foldl visit c).data = c.data := by
  induction visits generalizing c with
  | nil => rfl
  | cons v visits ih => rw [List.foldl_cons, ih, visit_data]

theorem foldl_visit_visitedRestaurant (c : ClientProc) (visits : List Visit) :
    (visits.foldl visit c).visitedRestaurant = true ↔
      c.visitedRestaurant = true ∨ .restaurant (.ok true) ∈ visits := by
  induction visits generalizing c with
  | nil => simp
  | cons v visits ih =>
    rw [List.foldl_cons, ih, visit_visitedRestaurant, List.mem_cons, or_assoc]
    exact or_congr_right (or_congr_left eq_comm)

/-- A client has visited the restaurant from inside the park exactly when one of its visits
there succeeded. -/
theorem stay_visitedRestaurant (data : ClientData) (visits : List Visit) :
    ((init data).stay visits).visitedRestaurant = true ↔ .restaurant (.ok true) ∈ visits := by
  rw [stay, foldl_visit_visitedRestaurant]
  simp [init]

theorem stay_data (c : ClientProc) (visits : List Visit) : (c.stay visits).data = c.data :=
  foldl_visit_data _ visits

end ClientProc
end AmusementPark.Client
