import Mathlib.Tactic

/-! # Configuration and simulation data

The constants of `Config.hpp`, the ticket table and the attraction table with
the admission criteria.
-/
namespace AmusementPark

/-- `pid_t`. -/
abbrev Pid := ℤ

def defaultMaxMsqSize : ℕ := 10

inductive TicketType where
  | h2
  | h4
  | h6
  | h24
  | vip
deriving DecidableEq

/-- `__TicketData`: time limit and price. -/
structure TicketData where
  time : ℤ
  price : ℚ

def ticketConfig : TicketType → TicketData
  | .h2 => ⟨120, 20⟩
  | .h4 => ⟨240, 35⟩
  | .h6 => ⟨360, 50⟩
  | .h24 => ⟨1440, 150⟩
  | .vip => ⟨-1, 0⟩

structure PersonData where
  age : ℕ
  height : ℕ
deriving DecidableEq

/-! ## Attractions -/

/-- `__AttractionConfig`; a limit of `-1` stands for no limit. -/
structure AttractionConfig where
  duration : ℕ
  maxClientsPerHandler : ℕ
  handlerCount : ℕ
  canLeave : Bool
  minChildHeight : ℤ
  minHeight : ℤ
  minAge : ℤ
  maxHeight : ℤ
deriving DecidableEq

/-- The attractions A1 to A16 and the restaurant A17. -/
def attractionConfig : List AttractionConfig :=
  [⟨30, 20, 1, true, 120, -1, -1, -1⟩,
   ⟨30, 12, 1, true, 100, 120, -1, -1⟩,
   ⟨25, 16, 1, true, -1, 120, 2, -1⟩,
   ⟨35, 18, 1, true, 110, 135, -1, -1⟩,
   ⟨20, 14, 1, true, -1, 130, 2, -1⟩,
   ⟨20, 8, 1, false, -1, 120, -1, -1⟩,
   ⟨15, 12, 1, false, -1, 130, 2, 190⟩,
   ⟨15, 24, 1, false, 100, 120, -1, -1⟩,
   ⟨35, 5, 4, false, -1, 120, 4, -1⟩,
   ⟨35, 5, 4, false, -1, 120, 4, -1⟩,
   ⟨30, 24, 1, false, -1, 140, -1, 195⟩,
   ⟨25, 18, 1, false, -1, 140, -1, 195⟩,
   ⟨20, 2, 4, true, -1, 140, -1, 195⟩,
   ⟨20, 3, 4, true, -1, 130, 4, -1⟩,
   ⟨15, 2, 10, true, -1, 120, -1, -1⟩,
   ⟨35, 9, 5, true, 120, 140, -1, 195⟩,
   ⟨60, 50, 1, true, -1, -1, -1, -1⟩]

/-- The criteria of one attraction, in the order in which `MeetsAttractionCriteria` tests them. -/
def AttractionConfig.admits (cfg : AttractionConfig) (client child : PersonData)
    (hasChild : Bool) : Bool :=
  if cfg.maxHeight ≠ -1 ∧ cfg.maxHeight < client.height then false
  else if cfg.minHeight ≠ -1 ∧ client.height < cfg.minHeight then false
  else if hasChild then
    if cfg.minAge ≠ -1 ∧ child.age < cfg.minAge then false
    else if cfg.minChildHeight ≠ -1 ∧ child.height < cfg.minChildHeight then false
    else if cfg.minHeight ≠ -1 ∧ child.height < cfg.minHeight then false
    else true
  else true

def meetsAttractionCriteria (attractionID : ℤ) (client child : PersonData) (hasChild : Bool) :
    Bool :=
  if attractionID < 0 then false else
    match attractionConfig[attractionID.toNat]? with
    | none => false
    | some cfg => cfg.admits client child hasChild

/-! ## Layout of the semaphore array -/

def attractionCount : ℕ := 17
def restaurantIndex : ℕ := attractionCount - 1

/-- `HandlerCount` of an attraction table. -/
def handlerCount (table : List AttractionConfig) : ℕ :=
  table.foldl (fun sum cfg => sum + cfg.handlerCount) 0

namespace MainSemaphoreArray

def mainSharedMemorySemaphore : ℕ := 0
def attractionEvent1 : ℕ := 3
def restaurantEvent : ℕ := attractionEvent1 + attractionCount - 1
def attractionHandler1 : ℕ := restaurantEvent + 1
def restaurantHandler (table : List AttractionConfig) : ℕ :=
  attractionHandler1 + handlerCount table - 1
def count (table : List AttractionConfig) : ℕ := restaurantHandler table + 1

end MainSemaphoreArray

/-- `GetFirstHandlerSemaphoreID`; the handlers before the index are summed up in 16 bits. -/
def getFirstHandlerSemaphoreID (table : List AttractionConfig) (attractionIndex : ℕ) : ℤ :=
  if 17 < attractionIndex then -1 else
    (MainSemaphoreArray.attractionHandler1 : ℤ) +
      ((table.take attractionIndex).foldl
        (fun sum cfg => sum % 2 ^ 16 + cfg.handlerCount) 0 % 2 ^ 16 : ℕ)

end AmusementPark
