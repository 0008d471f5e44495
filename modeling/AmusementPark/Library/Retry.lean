import Mathlib.Tactic

/-! # Calls that are repeated while they are interrupted

A `do … while` loop around a call, driven by the results of the calls. The
attempts are numbered from the first one on, and the one after the last result
is still under way.
-/
namespace AmusementPark.Library
variable {α ρ : Type*}

/-- The attempts made from the `i`th on, and the result that ended the loop, if one has. -/
def repeatWhile (again : ρ → Bool) (attempt : ℕ → α) : ℕ → List ρ → List α × Option ρ
  | i, [] => ([attempt i], none)
  | i, result :: rest =>
    if again result then
      let later := repeatWhile again attempt (i + 1) rest
      (attempt i :: later.1, later.2)
    else ([attempt i], some result)

/-- The number of results before the first one that ends the loop. -/
def repeats (again : ρ → Bool) (results : List ρ) : ℕ := (results.takeWhile again).length

variable {again : ρ → Bool} {attempt : ℕ → α}

theorem mem_repeatWhile {a : α} (i : ℕ) (results : List ρ) :
    a ∈ (repeatWhile again attempt i results).1 ↔
      ∃ j ≤ repeats again results, a = attempt (i + j) := by
  induction results generalizing i with
  | nil => simp [repeatWhile, repeats]
  | cons result rest ih =>
    cases hagain : again result with
    | false => simp [repeatWhile, repeats, hagain]
    | true =>
      have hrepeats : repeats again (result :: rest) = repeats again rest + 1 := by
        simp [repeats, hagain]
      simp only [repeatWhile, hagain, if_true, List.mem_cons, ih, hrepeats]
      constructor
      · rintro (rfl | ⟨j, hj, rfl⟩)
        · exact ⟨0, Nat.zero_le _, rfl⟩
        · exact ⟨j + 1, by omega, congrArg attempt (by omega)⟩
      · rintro ⟨j, hj, rfl⟩
        cases j with
        | zero => exact .inl rfl
        | succ j => exact .inr ⟨j, by omega, congrArg attempt (by omega)⟩

/-- The loop ends with the first result that is not one to repeat. -/
theorem repeatWhile_last (i : ℕ) (results : List ρ) :
    (repeatWhile again attempt i results).2 = results.find? fun result => !again result := by
  induction results generalizing i with
  | nil => rfl
  | cons result rest ih =>
    cases hagain : again result <;> simp [repeatWhile, hagain, ih]

end AmusementPark.Library
