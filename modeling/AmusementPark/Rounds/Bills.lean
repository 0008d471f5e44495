import AmusementPark.Cashier.Stopping
import AmusementPark.Library.Ledger
import AmusementPark.Restaurant.Rounds

/-! # Nobody pays twice

The cashier bills a client that it finds in `m_clients`, and the restaurant one
from outside that it finds in the current round; both remove the client then.
So every bill uses up an admission of its own, and its price is that of the data
with which the client was admitted.
-/
namespace AmusementPark
open Library Worker

/-- The admissions of a worker, and its bills with the data of the billed clients. -/
structure Billing (δ : Type*) where
  admitted : List (Pid × δ)
  bills : List ((Pid × δ) × ℚ)

namespace Billing
variable {δ : Type*} {b : Billing δ}

def empty : Billing δ := ⟨[], []⟩

def record (b : Billing δ) (admission : Option (Pid × δ)) (bill : Option ((Pid × δ) × ℚ)) :
    Billing δ :=
  ⟨b.admitted ++ admission.toList, b.bills ++ bill.toList⟩

def ledger (b : Billing δ) : Ledger (Pid × δ) := ⟨b.admitted, b.bills.map Prod.fst⟩

/-- The same with the admissions that have not been billed. -/
structure Accounted (price : δ → ℚ → Prop) (held : Multiset (Pid × δ)) (b : Billing δ) : Prop where
  covers : b.ledger.Covers held
  price : ∀ bill ∈ b.bills, price bill.1.2 bill.2

variable {price : δ → ℚ → Prop} {held held' : Multiset (Pid × δ)}

theorem Accounted.record (h : b.Accounted price held) {admission : Option (Pid × δ)}
    {bill : Option ((Pid × δ) × ℚ)} (hbill : ∀ e ∈ bill, price e.1.2 e.2)
    (hheld : ((bill.map Prod.fst).toList : Multiset (Pid × δ)) + held' ≤
      held + (admission.toList : Multiset (Pid × δ))) :
    (b.record admission bill).Accounted price held' := by
  constructor
  · have hledger : (b.record admission bill).ledger =
        b.ledger.record admission (bill.map Prod.fst) := by
      cases bill <;> simp [ledger, Billing.record, Ledger.record]
    rw [hledger]
    exact h.covers.record hheld
  · intro e he
    rw [Billing.record, List.mem_append, Option.mem_toList] at he
    obtain he | he := he
    · exact h.price e he
    · exact hbill e he

end Billing

namespace Cashier

namespace CashierSystem
variable {C : Type*}

/-- The client that the step enters in `m_clients`. -/
def admission (parkSize : ℕ) (s : CashierSystem C) (a : CashierAction C) :
    Option (Pid × ClientData) :=
  match s.served a with
  | some (message, x) => match message.content with
    | .enterPark content => if s.proc.Admits s.isOpen parkSize message x then
        some (message.senderPID, ⟨content.hasChild, content.isVip, x.now, content.ticketType⟩)
      else none
    | .exitPark _ => none
  | none => none

/-- The bill that the step puts on the client's queue. -/
def bill (s : CashierSystem C) (a : CashierAction C) : Option ((Pid × ClientData) × ℚ) :=
  match a, s.received a with
  | .handle x, some msg => if msg.mType = .exitPark then
      (s.proc.clients.lookup msg.senderPID).bind fun data =>
        (s.proc.pHandleExitPark msg x).2.map fun price => ((msg.senderPID, data), price)
    else none
  | _, _ => none

end CashierSystem
end Cashier

namespace Restaurant

namespace RestaurantSystem
variable {C : Type*}

/-- The client that the step enters in the round that is being filled. -/
def admission (cfg : AttractionConfig) (s : RestaurantSystem C) (a : RestaurantAction C) :
    Option (Pid × HandlerClientData) :=
  match s.event cfg a with
  | some (.admission pid data) => some (pid, data)
  | _ => none

/-- The bill that the step tries to send. -/
def bill (s : RestaurantSystem C) (a : RestaurantAction C) :
    Option ((Pid × HandlerClientData) × ℚ) :=
  match a with
  | .handle x | .handleThrows _ x => match s.point, s.mailbox.receive.1 with
    | .checked _, some msg =>
      (s.current.bind (·.lookup msg.senderPID)).bind fun data =>
        (s.proc.pHandleRestaurantMQ msg x).2.map fun price => ((msg.senderPID, data), price)
    | _, _ => none
  | _ => none

/-- The clients of the current round and of the one that is being filled. -/
def held (s : RestaurantSystem C) : Multiset (Pid × HandlerClientData) :=
  s.current.elim 0 entriesOf + s.next.elim 0 entriesOf

end RestaurantSystem
end Restaurant

end AmusementPark
