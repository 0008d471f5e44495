import AmusementPark.Library.Machine

/-! # Since an event, and until the last step

A flag remembers whether an event has happened in a run; what the event brings
about and every later step keeps holds wherever the flag is up. A potential that
pays for the steps of a run bounds what the run can cost.
-/
namespace AmusementPark.Library
namespace Machine
variable {σ α : Type*} {M : Machine σ α}

theorem Always.and {P Q : σ → Prop} {s : σ} {as : List α} (hP : M.Always P s as)
    (hQ : M.Always Q s as) : M.Always (fun t => P t ∧ Q t) s as := by
  induction as generalizing s with
  | nil => exact ⟨hP, hQ⟩
  | cons a as ih => exact ⟨⟨hP.1, hQ.1⟩, fun t ht => ih (hP.2 t ht) (hQ.2 t ht)⟩

/-- Run the machine with a flag that is up once a step has been an event. -/
def since (M : Machine σ α) (event : σ → α → Bool) : Machine (σ × Bool) α :=
  M.observe fun happened s a _ => happened || event s a

theorem since_step {event : σ → α → Bool} {x y : σ × Bool} {a : α} :
    (M.since event).step x a = some y ↔
      M.step x.1 a = some y.1 ∧ (x.2 || event x.1 a) = y.2 := observe_step

/-- What an event establishes and every step keeps holds since the event. -/
theorem always_since {event : σ → α → Bool} {I : σ → Prop}
    (hevent : ∀ s a t, event s a = true → M.step s a = some t → I t)
    (hstep : ∀ s a t, I s → M.step s a = some t → I t) (s : σ) (as : List α) :
    (M.since event).Always (fun x => x.2 = true → I x.1) (s, false) as := by
  apply always_of_invariant (fun _ h => h) ?_ as (fun h => by cases h)
  intro x a y hx h hy
  obtain ⟨ht, hflag⟩ := since_step.mp h
  rw [← hflag, Bool.or_eq_true] at hy
  obtain hx2 | ha := hy
  · exact hstep _ _ _ (hx hx2) ht
  · exact hevent _ _ _ ha ht

/-- A run whose steps are paid for by a potential costs no more than it starts with. -/
theorem cost_add_le {I : σ → Prop} {potential : σ → ℕ} {cost : α → ℕ}
    (hstep : ∀ s a t, I s → M.step s a = some t → I t ∧ cost a + potential t ≤ potential s)
    {s t : σ} {as : List α} (hs : I s) (h : M.exec s as = some t) :
    I t ∧ (as.map cost).sum + potential t ≤ potential s := by
  induction as generalizing s with
  | nil =>
    obtain rfl := Option.some.inj h
    exact ⟨hs, by simp⟩
  | cons a as ih =>
    obtain ⟨u, hu, hut⟩ := M.exec_cons_eq_some.mp h
    obtain ⟨hI, hpay⟩ := hstep s a u hs hu
    obtain ⟨ht, hrest⟩ := ih hI hut
    refine ⟨ht, ?_⟩
    rw [List.map_cons, List.sum_cons]
    omega

/-- Whatever happens, the machine takes at most `n` steps that cost something, has ended after the
last of them, and has a next one as long as it has not ended. -/
structure EndsWithin (M : Machine σ α) (cost : α → ℕ) (ended : σ → Prop) (n : ℕ) (s : σ) :
    Prop where
  bound : ∀ as t, M.exec s as = some t →
    (as.map cost).sum ≤ n ∧ ((as.map cost).sum = n → ended t)
  next : ∀ as t, M.exec s as = some t → ¬ ended t →
    ∃ a, 0 < cost a ∧ (M.step t a).isSome = true

theorem endsWithin_of_potential {I : σ → Prop} {potential : σ → ℕ} {cost : α → ℕ}
    {ended : σ → Prop}
    (hstep : ∀ s a t, I s → M.step s a = some t → I t ∧ cost a + potential t ≤ potential s)
    (hended : ∀ s, potential s = 0 → ended s)
    (hnext : ∀ s, I s → ¬ ended s → ∃ a, 0 < cost a ∧ (M.step s a).isSome = true) {s : σ}
    (hs : I s) {n : ℕ} (hn : potential s ≤ n) : M.EndsWithin cost ended n s where
  bound as t h := by
    obtain ⟨-, hpaid⟩ := cost_add_le hstep hs h
    exact ⟨by omega, fun hall => hended t (by omega)⟩
  next as t h := hnext t (cost_add_le hstep hs h).1

end Machine
end AmusementPark.Library
