import Mathlib.Tactic

/-! # Resources that are acquired and released

A history of uses of some resources, the latest one first, and what is held
after it. A history is orderly if only what is held is released; then nothing
is released more often than it has been acquired.
-/
namespace AmusementPark.Library

/-- A resource is acquired, or a release of it is tried and done or not. -/
inductive Use (ρ : Type*) where
  | acquire (r : ρ)
  | release (r : ρ) (done : Bool)
deriving DecidableEq

/-- The release was done; an acquisition always is. -/
def Use.done {ρ : Type*} : Use ρ → Bool
  | .acquire _ => true
  | .release _ done => done

variable {ρ : Type*}

/-- What a release has been tried on and not done. -/
def abandoned : List (Use ρ) → Multiset ρ
  | [] => 0
  | .acquire _ :: uses => abandoned uses
  | .release _ true :: uses => abandoned uses
  | .release r false :: uses => r ::ₘ abandoned uses

@[simp] theorem abandoned_nil : abandoned ([] : List (Use ρ)) = 0 := rfl

@[simp] theorem abandoned_acquire (r : ρ) (uses : List (Use ρ)) :
    abandoned (.acquire r :: uses) = abandoned uses := rfl

@[simp] theorem abandoned_release_true (r : ρ) (uses : List (Use ρ)) :
    abandoned (.release r true :: uses) = abandoned uses := rfl

@[simp] theorem abandoned_release_false (r : ρ) (uses : List (Use ρ)) :
    abandoned (.release r false :: uses) = r ::ₘ abandoned uses := rfl

/-- Nothing is abandoned where every release has been done. -/
theorem abandoned_eq_zero_iff {uses : List (Use ρ)} :
    abandoned uses = 0 ↔ ∀ u ∈ uses, u.done = true := by
  induction uses with
  | nil => simp
  | cons use uses ih =>
    rw [List.forall_mem_cons, ← ih]
    cases use with
    | acquire r => simp [Use.done]
    | release r done => cases done <;> simp [Use.done]

variable [DecidableEq ρ]

/-- What has been acquired and not been released since. -/
def held : List (Use ρ) → Multiset ρ
  | [] => 0
  | .acquire r :: uses => r ::ₘ held uses
  | .release r true :: uses => (held uses).erase r
  | .release _ false :: uses => held uses

/-- Every release was tried on something that was held. -/
def Orderly : List (Use ρ) → Prop
  | [] => True
  | .acquire _ :: uses => Orderly uses
  | .release r _ :: uses => r ∈ held uses ∧ Orderly uses

instance decidableOrderly : ∀ uses : List (Use ρ), Decidable (Orderly uses)
  | [] => isTrue trivial
  | .acquire _ :: uses => decidableOrderly uses
  | .release r _ :: uses =>
    haveI := decidableOrderly uses
    inferInstanceAs (Decidable (r ∈ held uses ∧ Orderly uses))

@[simp] theorem held_nil : held ([] : List (Use ρ)) = 0 := rfl

@[simp] theorem held_acquire (r : ρ) (uses : List (Use ρ)) :
    held (.acquire r :: uses) = r ::ₘ held uses := rfl

@[simp] theorem held_release_true (r : ρ) (uses : List (Use ρ)) :
    held (.release r true :: uses) = (held uses).erase r := rfl

@[simp] theorem held_release_false (r : ρ) (uses : List (Use ρ)) :
    held (.release r false :: uses) = held uses := rfl

/-- Where nothing is held, no release is in order. -/
theorem not_orderly_release {uses : List (Use ρ)} (h : held uses = 0) (r : ρ) (done : Bool) :
    ¬ Orderly (.release r done :: uses) := by
  intro horderly
  have hheld := horderly.1
  rw [h] at hheld
  exact Multiset.notMem_zero r hheld

/-- The release of the only thing held is in order. -/
theorem Orderly.release {uses : List (Use ρ)} (horderly : Orderly uses) {r : ρ}
    (h : held uses = {r}) (done : Bool) : Orderly (.release r done :: uses) := by
  refine ⟨?_, horderly⟩
  rw [h]
  exact Multiset.mem_singleton_self r

/-- The release of the only thing held leaves nothing. -/
theorem held_release_of_singleton {uses : List (Use ρ)} {r : ρ} (h : held uses = {r}) :
    held (.release r true :: uses) = 0 := by
  rw [held_release_true, h, Multiset.erase_singleton]

/-- In an orderly history everything acquired has been released or is held. -/
theorem Orderly.count_acquire {uses : List (Use ρ)} (h : Orderly uses) (r : ρ) :
    uses.count (.acquire r) = uses.count (.release r true) + (held uses).count r := by
  induction uses with
  | nil => simp
  | cons use uses ih =>
    cases use with
    | acquire q =>
      have := ih h
      by_cases hq : q = r
      · subst hq
        simp
        omega
      · simp [hq, Multiset.count_cons_of_ne (Ne.symm hq), this]
    | release q done =>
      have := ih h.2
      cases done with
      | false => simpa using this
      | true =>
        by_cases hq : q = r
        · subst hq
          have hpos := Multiset.count_pos.mpr h.1
          simp [Multiset.count_erase_self]
          omega
        · simp [hq, Multiset.count_erase_of_ne (Ne.symm hq), this]

/-- Where nothing is held any more, everything has been released as often as acquired. -/
theorem Orderly.count_eq_of_held {uses : List (Use ρ)} (h : Orderly uses) (hheld : held uses = 0)
    (r : ρ) : uses.count (.release r true) = uses.count (.acquire r) := by
  rw [h.count_acquire r, hheld, Multiset.count_zero, Nat.add_zero]

end AmusementPark.Library
