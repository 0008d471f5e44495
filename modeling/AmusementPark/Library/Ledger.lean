import Mathlib.Data.List.AList
import Mathlib.Tactic

/-! # Charges paid for by grants

A ledger lists what has been granted and what has been charged for. It covers
the grants that are still in hand if charges and grants in hand together are
among the grants; then every charge has used up a grant of its own.
-/
namespace AmusementPark.Library

structure Ledger (α : Type*) where
  granted : List α
  charged : List α

namespace Ledger
variable {α : Type*} {l : Ledger α} {held held' : Multiset α}

def empty : Ledger α := ⟨[], []⟩

/-- After a step with the given grants and charges. -/
def record (l : Ledger α) (granted charged : Option α) : Ledger α :=
  ⟨l.granted ++ granted.toList, l.charged ++ charged.toList⟩

def Covers (l : Ledger α) (held : Multiset α) : Prop :=
  (l.charged : Multiset α) + held ≤ (l.granted : Multiset α)

/-- What is in hand may be lost, but comes from a grant and is gone once charged for. -/
theorem Covers.record (h : l.Covers held) {granted charged : Option α}
    (hheld : (charged.toList : Multiset α) + held' ≤ held + (granted.toList : Multiset α)) :
    (l.record granted charged).Covers held' := by
  unfold Covers Ledger.record at *
  rw [← Multiset.coe_add, ← Multiset.coe_add, add_assoc]
  calc (l.charged : Multiset α) + (charged.toList + held')
      ≤ l.charged + (held + granted.toList) := by gcongr
    _ = (l.charged + held) + granted.toList := (add_assoc _ _ _).symm
    _ ≤ l.granted + granted.toList := by gcongr

end Ledger

/-! ## The entries of a map -/

section Entries
variable {κ β : Type*} [DecidableEq κ]

/-- The keys of a map with their values. -/
def entriesOf (m : AList fun _ : κ => β) : Multiset (κ × β) :=
  (m.entries.map fun e => (e.1, e.2) : List (κ × β))

end Entries
end AmusementPark.Library
