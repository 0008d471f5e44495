import Mathlib.Tactic

/-! # Critical sections, access by access

A section makes one access to the shared data after the other and goes on or
returns. As long as at most one process is inside a section, nobody sees the
data between two accesses, and a section that returns has been one step.
-/
namespace AmusementPark.Library.CriticalSection
variable {D π ρ P : Type*}

/-- Where a section gets without returning, from the point `p₀` and the data `d₀`. -/
inductive Reaches (access : D → π → D × (π ⊕ ρ)) (d₀ : D) (p₀ : π) : D → π → Prop where
  | start : Reaches access d₀ p₀ d₀ p₀
  | next {d d' : D} {p q : π} (h : Reaches access d₀ p₀ d p) (ha : access d p = (d', .inl q)) :
      Reaches access d₀ p₀ d' q

/-- A section that returns does what the function does. -/
def Computes (access : D → π → D × (π ⊕ ρ)) (p₀ : π) (f : D → D × ρ) : Prop :=
  ∀ d₀ d p d' r, Reaches access d₀ p₀ d p → access d p = (d', .inr r) → f d₀ = (d', r)

/-- The rule of the invariant that relates the data to those at the start. -/
theorem computes_of_invariant {access : D → π → D × (π ⊕ ρ)} {p₀ : π} {f : D → D × ρ}
    (I : D → D → π → Prop) (hstart : ∀ d, I d d p₀)
    (hnext : ∀ d₀ d p d' q, I d₀ d p → access d p = (d', .inl q) → I d₀ d' q)
    (hreturns : ∀ d₀ d p d' r, I d₀ d p → access d p = (d', .inr r) → f d₀ = (d', r)) :
    Computes access p₀ f := by
  intro d₀ d p d' r hreaches hreturn
  refine hreturns d₀ d p d' r ?_ hreturn
  clear hreturn
  induction hreaches with
  | start => exact hstart d₀
  | next _ ha ih => exact hnext d₀ _ _ _ _ ih ha

/-- The processes inside a section, each with the point where it has begun and the one it has
reached; `d₀` are the data when the last of them began. -/
structure Progress (access : D → π → D × (π ⊕ ρ)) (inside : P → Option (π × π)) (d₀ d : D) :
    Prop where
  exclusive : ∀ p q, inside p ≠ none → inside q ≠ none → p = q
  untouched : (∀ p, inside p = none) → d = d₀
  underWay : ∀ p p₀ i, inside p = some (p₀, i) → Reaches access d₀ p₀ d i

namespace Progress
variable {access : D → π → D × (π ⊕ ρ)} {inside : P → Option (π × π)} {d₀ d d' : D} {p : P}
  {p₀ i : π}

theorem outside (d : D) : Progress access (fun _ : P => none) d d where
  exclusive p _ hp := absurd rfl hp
  untouched _ := rfl
  underWay _ _ _ hp := by cases hp

/-- Beside a process that is inside there is no other. -/
theorem eq_none (h : Progress access inside d₀ d) (hp : inside p = some (p₀, i)) {q : P}
    (hq : q ≠ p) : inside q = none := by
  by_contra hinside
  refine hq (h.exclusive q p hinside ?_)
  rw [hp]
  exact Option.some_ne_none _

variable [DecidableEq P]

/-- One process inside, and nobody else. -/
theorem alone (hothers : ∀ q, q ≠ p → inside q = none) (hreaches : Reaches access d₀ p₀ d i) :
    Progress access (Function.update inside p (some (p₀, i))) d₀ d where
  exclusive q r hq hr := by
    have hself (s : P) (hs : Function.update inside p (some (p₀, i)) s ≠ none) : s = p := by
      by_contra hne
      rw [Function.update_of_ne hne] at hs
      exact hs (hothers s hne)
    rw [hself q hq, hself r hr]
  untouched hnone := by simpa using hnone p
  underWay q q₀ j hq := by
    by_cases hqp : q = p
    · rw [hqp, Function.update_self, Option.some.injEq, Prod.mk.injEq] at hq
      obtain ⟨rfl, rfl⟩ := hq
      exact hreaches
    · rw [Function.update_of_ne hqp, hothers q hqp] at hq
      cases hq

theorem enter (h : Progress access inside d₀ d) (hnone : ∀ q, inside q = none) (p : P) (p₀ : π) :
    Progress access (Function.update inside p (some (p₀, p₀))) d₀ d := by
  apply alone fun q _ => hnone q
  rw [h.untouched hnone]
  exact .start

theorem next (h : Progress access inside d₀ d) (hp : inside p = some (p₀, i)) {j : π}
    (ha : access d i = (d', .inl j)) :
    Progress access (Function.update inside p (some (p₀, j))) d₀ d' :=
  alone (fun _ hq => h.eq_none hp hq) ((h.underWay p p₀ i hp).next ha)

/-- The last access makes the section one step. -/
theorem returns (h : Progress access inside d₀ d) (hp : inside p = some (p₀, i)) {r : ρ}
    (ha : access d i = (d', .inr r)) {f : D → D × ρ} (hf : Computes access p₀ f) :
    f d₀ = (d', r) ∧ Progress access (Function.update inside p none) d' d' := by
  refine ⟨hf d₀ d i d' r (h.underWay p p₀ i hp) ha, ?_⟩
  have hnone : Function.update inside p none = fun _ => none := by
    funext q
    by_cases hqp : q = p
    · rw [hqp, Function.update_self]
    · rw [Function.update_of_ne hqp, h.eq_none hp hqp]
  rw [hnone]
  exact outside d'

end Progress
end AmusementPark.Library.CriticalSection
