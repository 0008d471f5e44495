import AmusementPark.Library.Holdings

/-! # One owner at a time

Processes that may each own a resource, and the history of the uses of these
resources. As long as a resource is acquired only while nothing is held, and
released only by its owner, what is held is what one process owns.
-/
namespace AmusementPark.Library
variable {ι ρ : Type*} [DecidableEq ρ]

/-- At most one process owns something, that is all that is held, whatever is held has an owner, and
every release was done, on something held. -/
structure SoleOwner (owned : ι → Option ρ) (uses : List (Use ρ)) : Prop where
  orderly : Orderly uses
  done : ∀ u ∈ uses, u.done = true
  holds : ∀ i r, owned i = some r → held uses = {r}
  alone : ∀ i j, owned i ≠ none → owned j ≠ none → i = j
  left : held uses ≠ 0 → ∃ i, owned i ≠ none

namespace SoleOwner
variable {owned : ι → Option ρ} {uses : List (Use ρ)}

theorem none_of_held (h : SoleOwner owned uses) (hheld : held uses = 0) (i : ι) :
    owned i = none := by
  cases hi : owned i with
  | none => rfl
  | some r =>
    have hr := h.holds i r hi
    rw [hheld] at hr
    exact absurd hr.symm (Multiset.singleton_ne_zero r)

theorem empty : SoleOwner (fun _ : ι => (none : Option ρ)) [] :=
  ⟨trivial, by simp, by simp, by simp, by simp⟩

variable [DecidableEq ι]

theorem unchanged (h : SoleOwner owned uses) {i : ι} {r : Option ρ} (hr : owned i = r) :
    SoleOwner (Function.update owned i r) uses := by
  rw [← hr, Function.update_eq_self]
  exact h

theorem acquire (h : SoleOwner owned uses) (hfree : held uses = 0) (i : ι) (r : ρ) :
    SoleOwner (Function.update owned i (some r)) (.acquire r :: uses) := by
  have hnone := h.none_of_held hfree
  have honly (j : ι) (hj : Function.update owned i (some r) j ≠ none) : j = i := by
    by_contra hne
    rw [Function.update_of_ne hne, hnone j] at hj
    exact hj rfl
  refine ⟨h.orderly, List.forall_mem_cons.mpr ⟨rfl, h.done⟩, ?_, ?_, ?_⟩
  · intro j q hj
    obtain rfl := honly j (by simp [hj])
    rw [Function.update_self, Option.some.injEq] at hj
    rw [held_acquire, hfree, hj]
    rfl
  · intro j k hj hk
    rw [honly j hj, honly k hk]
  · intro _
    exact ⟨i, by simp⟩

theorem release (h : SoleOwner owned uses) {i : ι} {r : ρ} (hi : owned i = some r) :
    SoleOwner (Function.update owned i none) (.release r true :: uses) := by
  have hheld := h.holds i r hi
  have hgone (j : ι) : Function.update owned i none j = none := by
    by_cases hj : j = i
    · rw [hj, Function.update_self]
    · rw [Function.update_of_ne hj]
      by_contra hne
      exact hj (h.alone j i hne (by simp [hi]))
  refine ⟨h.orderly.release hheld true, List.forall_mem_cons.mpr ⟨rfl, h.done⟩, ?_, ?_, ?_⟩
  · intro j q hj
    cases (hgone j).symm.trans hj
  · intro j k hj
    exact absurd (hgone j) hj
  · intro hne
    exact absurd (held_release_of_singleton hheld) hne

omit [DecidableEq ι] in
/-- A release that takes nothing from an owner is not in order. -/
theorem not_release (h : SoleOwner owned uses) (r : ρ) (done : Bool) :
    ¬ SoleOwner owned (.release r done :: uses) := by
  intro hbad
  obtain rfl : done = true := hbad.done _ List.mem_cons_self
  have hmem : r ∈ held uses := hbad.orderly.1
  have hne : held uses ≠ 0 := by
    intro hzero
    rw [hzero] at hmem
    exact Multiset.notMem_zero r hmem
  obtain ⟨i, hi⟩ := h.left hne
  obtain ⟨q, hq⟩ := Option.ne_none_iff_exists'.mp hi
  have hr : r = q := by simpa [h.holds i q hq] using hmem
  have hheld := hbad.holds i q hq
  rw [held_release_of_singleton (h.holds i q hq ▸ hr ▸ rfl)] at hheld
  exact Multiset.singleton_ne_zero q hheld.symm

end SoleOwner
end AmusementPark.Library
