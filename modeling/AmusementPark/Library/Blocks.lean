import Mathlib.Tactic
import Mathlib.Order.Interval.Set.Union
import Mathlib.Order.SuccPred.IntervalSucc

/-! # Blocks laid end to end

A list of sizes cuts the first places into consecutive blocks. The blocks of
different indices have no place in common, and together they are all places
below the total.
-/
namespace AmusementPark.Library
open Set

variable {sizes : List ℕ} {i n p : ℕ}

/-- The first place of the `i`th block. -/
def blockStart (sizes : List ℕ) (i : ℕ) : ℕ := (sizes.take i).sum

/-- The places of the `i`th block; past the last index there are none. -/
def block (sizes : List ℕ) (i : ℕ) : Set ℕ := Ico (blockStart sizes i) (blockStart sizes (i + 1))

theorem monotone_blockStart (sizes : List ℕ) : Monotone (blockStart sizes) :=
  List.monotone_sum_take sizes

@[simp] theorem blockStart_zero (sizes : List ℕ) : blockStart sizes 0 = 0 := rfl

theorem blockStart_succ (h : sizes[i]? = some n) :
    blockStart sizes (i + 1) = blockStart sizes i + n := by
  obtain ⟨hi, rfl⟩ := List.getElem?_eq_some_iff.mp h
  exact List.sum_take_succ sizes i hi

theorem blockStart_of_length_le (h : sizes.length ≤ i) : blockStart sizes i = sizes.sum := by
  rw [blockStart, List.take_of_length_le h]

theorem blockStart_le_sum (sizes : List ℕ) (i : ℕ) : blockStart sizes i ≤ sizes.sum := by
  rw [← blockStart_of_length_le (Nat.le_add_left sizes.length i)]
  exact monotone_blockStart sizes (Nat.le_add_right i sizes.length)

/-- The places of a block, counted from its first. -/
theorem mem_block_iff (h : sizes[i]? = some n) :
    p ∈ block sizes i ↔ ∃ j < n, p = blockStart sizes i + j := by
  rw [block, mem_Ico, blockStart_succ h]
  constructor
  · intro hp
    exact ⟨p - blockStart sizes i, by omega, by omega⟩
  · rintro ⟨j, hj, rfl⟩
    omega

theorem block_of_none (h : sizes[i]? = none) : block sizes i = ∅ := by
  have hi := List.getElem?_eq_none_iff.mp h
  rw [block, blockStart_of_length_le hi, blockStart_of_length_le (Nat.le_succ_of_le hi), Ico_self]

/-- A place lies in one block at most. -/
theorem eq_of_mem_block {j : ℕ} (hi : p ∈ block sizes i) (hj : p ∈ block sizes j) : i = j := by
  by_contra hne
  have hdisjoint := (monotone_blockStart sizes).pairwise_disjoint_on_Ico_succ hne
  exact disjoint_left.mp hdisjoint hi hj

/-- A place lies below the total if and only if it lies in a block. -/
theorem exists_mem_block_iff : (∃ i, p ∈ block sizes i) ↔ p < sizes.sum := by
  constructor
  · rintro ⟨i, hp⟩
    exact hp.2.trans_le (blockStart_le_sum sizes (i + 1))
  · intro hp
    have hcover := Ico_subset_biUnion_Ico sizes.length (blockStart sizes)
    rw [blockStart_zero, blockStart_of_length_le le_rfl] at hcover
    obtain ⟨i, -, hi⟩ := mem_iUnion₂.mp (hcover ⟨Nat.zero_le p, hp⟩)
    exact ⟨i, hi⟩

end AmusementPark.Library
