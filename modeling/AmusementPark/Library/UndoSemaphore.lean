import Mathlib.Tactic

/-! # A System V semaphore with undo adjustments

The kernel keeps, beside the value, one adjustment for each process. An
operation with the undo flag subtracts its amount from the adjustment of the
process that makes it; at the exit of a process its adjustment is added to the
value. Operations that have to wait are blocked.
-/
namespace AmusementPark.Library

/-- The value of a semaphore and the undo adjustment of each process. -/
structure UndoSemaphore (P : Type*) where
  value : ℤ
  adjustment : P → ℤ

namespace UndoSemaphore
variable {P : Type*} [DecidableEq P]

/-- One `semop` by process `p`: a negative amount waits until it fits under the value, zero
waits for the value zero, a positive amount is added at once. -/
def semop (S : UndoSemaphore P) (p : P) (op : ℤ) (undo : Bool) : Option (UndoSemaphore P) :=
  if (op < 0 ∧ S.value + op < 0) ∨ (op = 0 ∧ S.value ≠ 0) then none
  else some
    { value := S.value + op
      adjustment := if undo then Function.update S.adjustment p (S.adjustment p - op)
        else S.adjustment }

/-- The exit of process `p` applies its adjustment. -/
def exitProcess (S : UndoSemaphore P) (p : P) : UndoSemaphore P where
  value := S.value + S.adjustment p
  adjustment := Function.update S.adjustment p 0

/-- `SETVAL` writes the value and clears every adjustment. -/
def setVal (v : ℤ) : UndoSemaphore P where
  value := v
  adjustment _ := 0

theorem semop_undo_eq_some {S T : UndoSemaphore P} {p : P} {op : ℤ} (hop : op < 0) :
    S.semop p op true = some T ↔ 0 ≤ S.value + op ∧
      T = ⟨S.value + op, Function.update S.adjustment p (S.adjustment p - op)⟩ := by
  unfold semop
  by_cases h : (op < 0 ∧ S.value + op < 0) ∨ (op = 0 ∧ S.value ≠ 0)
  · rw [if_pos h]
    constructor
    · intro hn
      cases hn
    · rintro ⟨h0, -⟩
      omega
  · rw [if_neg h, Option.some.injEq, eq_comm]
    exact ⟨fun ht => ⟨by omega, ht⟩, And.right⟩

theorem semop_add {S : UndoSemaphore P} {p : P} {op : ℤ} (hop : 0 < op) :
    S.semop p op false = some ⟨S.value + op, S.adjustment⟩ := by
  unfold semop
  rw [if_neg (by omega)]
  rfl

end UndoSemaphore
end AmusementPark.Library
