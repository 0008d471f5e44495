import Mathlib.Data.Fintype.Card
import Mathlib.Tactic

/-! # Counting the processes in a phase

Finitely many processes, each in a phase of its own. When one process changes
its phase, the number of processes in a class of phases changes by what that
process contributes before and after.
-/
namespace AmusementPark.Library

section Population
variable {ι φ : Type*} [Fintype ι] (p : φ → Prop) [DecidablePred p]

/-- The number of processes whose phase is in the class `p`. -/
def population (f : ι → φ) : ℕ := (Finset.univ.filter fun i => p (f i)).card

/-- What one process contributes to the population. -/
def share (x : φ) : ℕ := if p x then 1 else 0

theorem share_of {x : φ} (h : p x) : share p x = 1 := if_pos h

theorem share_of_not {x : φ} (h : ¬ p x) : share p x = 0 := if_neg h

theorem population_update [DecidableEq ι] (f : ι → φ) (i : ι) (x : φ) :
    population p (Function.update f i x) + share p (f i) = population p f + share p x := by
  have hrest (g : ι → φ) : population p g =
      ((Finset.univ.erase i).filter fun j => p (g j)).card + share p (g i) := by
    unfold population share
    rw [← Finset.insert_erase (Finset.mem_univ i), Finset.filter_insert]
    split_ifs with h
    · rw [Finset.card_insert_of_notMem (by simp)]
      simp
    · simp
  have hsame : ((Finset.univ.erase i).filter fun j => p (Function.update f i x j)) =
      (Finset.univ.erase i).filter fun j => p (f j) := by
    apply Finset.filter_congr
    intro j hj
    rw [Function.update_of_ne (Finset.ne_of_mem_erase hj)]
  rw [hrest (Function.update f i x), hrest f, hsame, Function.update_self]
  omega

theorem population_const {x : φ} (h : ¬ p x) : population p (fun _ : ι => x) = 0 := by
  simp [population, h]

end Population
end AmusementPark.Library
