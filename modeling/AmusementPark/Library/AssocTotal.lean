import Mathlib.Data.List.AList
import Mathlib.Tactic

/-! # Weighted totals of association lists

The total weight of the values of a finite map, and how insertion and removal
of one key change it.
-/
namespace AmusementPark.Library

section AssocTotal
variable {κ β : Type*} [DecidableEq κ] (weight : β → ℕ)

/-- The sum of the weights of all values in the map. -/
def assocTotal (m : AList fun _ : κ => β) : ℕ := (m.entries.map fun e => weight e.2).sum

private theorem kerase_total {k : κ} {v : β} {l : List (Sigma fun _ : κ => β)}
    (h : l.dlookup k = some v) :
    ((l.kerase k).map fun e => weight e.2).sum + weight v = (l.map fun e => weight e.2).sum := by
  induction l with
  | nil => simp at h
  | cons e l ih =>
    rcases e with ⟨j, w⟩
    by_cases hj : k = j
    · subst hj
      rw [List.dlookup_cons_eq, Option.some.injEq] at h
      have hk : List.kerase k (⟨k, w⟩ :: l) = l := List.kerase_cons_eq rfl
      rw [hk, h, List.map_cons, List.sum_cons]
      exact Nat.add_comm _ _
    · rw [List.dlookup_cons_ne _ _ hj] at h
      have hk : List.kerase k (⟨j, w⟩ :: l) = ⟨j, w⟩ :: List.kerase k l := List.kerase_cons_ne hj
      rw [hk, List.map_cons, List.map_cons, List.sum_cons, List.sum_cons]
      have := ih h
      omega

theorem assocTotal_erase {m : AList fun _ : κ => β} {k : κ} {v : β} (h : m.lookup k = some v) :
    assocTotal weight (m.erase k) + weight v = assocTotal weight m :=
  kerase_total weight h

theorem assocTotal_erase_of_notMem {m : AList fun _ : κ => β} {k : κ} (h : k ∉ m) :
    assocTotal weight (m.erase k) = assocTotal weight m := by
  have hk : (m.erase k).entries = m.entries := List.kerase_of_notMem_keys h
  rw [assocTotal, hk, assocTotal]

theorem assocTotal_erase_le (m : AList fun _ : κ => β) (k : κ) :
    assocTotal weight (m.erase k) ≤ assocTotal weight m := by
  cases h : m.lookup k with
  | none => exact (assocTotal_erase_of_notMem weight (AList.lookup_eq_none.mp h)).le
  | some v =>
    have := assocTotal_erase weight h
    omega

theorem assocTotal_insert (m : AList fun _ : κ => β) (k : κ) (v : β) :
    assocTotal weight (m.insert k v) = assocTotal weight (m.erase k) + weight v := by
  have hk : (m.erase k).entries = m.entries.kerase k := rfl
  simp [assocTotal, AList.entries_insert, hk, add_comm]

theorem assocTotal_insert_of_notMem {m : AList fun _ : κ => β} {k : κ} (v : β) (h : k ∉ m) :
    assocTotal weight (m.insert k v) = assocTotal weight m + weight v := by
  rw [assocTotal_insert, assocTotal_erase_of_notMem weight h]

/-- Overwriting a key never makes the total larger than adding the new weight does. -/
theorem assocTotal_insert_le (m : AList fun _ : κ => β) (k : κ) (v : β) :
    assocTotal weight (m.insert k v) ≤ assocTotal weight m + weight v := by
  cases h : m.lookup k with
  | none =>
    rw [assocTotal_insert_of_notMem weight v (AList.lookup_eq_none.mp h)]
  | some w =>
    have := assocTotal_erase weight h
    rw [assocTotal_insert]
    omega

end AssocTotal
end AmusementPark.Library
