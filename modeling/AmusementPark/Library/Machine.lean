import Mathlib.Tactic

/-! # Labelled machines and their finite runs

A machine answers each action with its successor state, or with `none` while
the action is blocked. A run is a list of actions; an action that is blocked
ends it. The two run predicates `Always` and `Meets` speak about every state
and about every step of a run, and `couple` attaches a second component that
follows the steps of the first.
-/
namespace AmusementPark.Library

/-- Transitions labelled by actions; a blocked action has no successor. -/
structure Machine (σ α : Type*) where
  step : σ → α → Option σ

namespace Machine
variable {σ α : Type*} (M : Machine σ α)

/-- Execute a list of actions, each of which has to be enabled. -/
def exec : σ → List α → Option σ
  | s, [] => some s
  | s, a :: as => (M.step s a).bind fun t => exec t as

/-- `P` holds of every state the run visits, the first one included. -/
def Always (P : σ → Prop) : σ → List α → Prop
  | s, [] => P s
  | s, a :: as => P s ∧ ∀ t, M.step s a = some t → Always P t as

/-- Every step the run takes meets the condition `C` in the state it is taken in. -/
def Meets (C : σ → α → Prop) : σ → List α → Prop
  | _, [] => True
  | s, a :: as => ∀ t, M.step s a = some t → C s a ∧ Meets C t as

@[simp] theorem exec_nil (s : σ) : M.exec s [] = some s := rfl

theorem exec_cons_eq_some {s t : σ} {a : α} {as : List α} :
    M.exec s (a :: as) = some t ↔ ∃ u, M.step s a = some u ∧ M.exec u as = some t := by
  simp [exec, Option.bind_eq_some_iff]

theorem exec_append (s : σ) (as bs : List α) :
    M.exec s (as ++ bs) = (M.exec s as).bind fun t => M.exec t bs := by
  induction as generalizing s with
  | nil => rfl
  | cons a as ih => simp [exec, Option.bind_assoc, ih]

variable {M}

theorem Always.head {P : σ → Prop} {s : σ} {as : List α} (h : M.Always P s as) : P s := by
  cases as with
  | nil => exact h
  | cons a as => exact h.1

theorem Always.mono {P Q : σ → Prop} (hPQ : ∀ s, P s → Q s) {s : σ} {as : List α}
    (h : M.Always P s as) : M.Always Q s as := by
  induction as generalizing s with
  | nil => exact hPQ s h
  | cons a as ih => exact ⟨hPQ s h.1, fun t ht => ih (h.2 t ht)⟩

theorem Meets.mono {C D : σ → α → Prop} (hCD : ∀ s a, C s a → D s a) {s : σ} {as : List α}
    (h : M.Meets C s as) : M.Meets D s as := by
  induction as generalizing s with
  | nil => trivial
  | cons a as ih => exact fun t ht => ⟨hCD s a (h t ht).1, ih (h t ht).2⟩

theorem meets_of_forall {C : σ → α → Prop} (h : ∀ s a, C s a) (s : σ) (as : List α) :
    M.Meets C s as := by
  induction as generalizing s with
  | nil => trivial
  | cons a as ih => exact fun t _ => ⟨h s a, ih t⟩

theorem meets_of_mem {C : σ → α → Prop} {as : List α} (h : ∀ a ∈ as, ∀ s, C s a) (s : σ) :
    M.Meets C s as := by
  induction as generalizing s with
  | nil => trivial
  | cons a as ih =>
    intro t _
    exact ⟨h a List.mem_cons_self s, ih (fun b hb => h b (List.mem_cons_of_mem a hb)) t⟩

/-- A run visits its last state. -/
theorem Always.of_exec {P : σ → Prop} {s t : σ} {as : List α} (h : M.Always P s as)
    (ht : M.exec s as = some t) : P t := by
  induction as generalizing s with
  | nil => exact Option.some.inj ht ▸ h
  | cons a as ih =>
    obtain ⟨u, hu, hut⟩ := M.exec_cons_eq_some.mp ht
    exact ih (h.2 u hu) hut

/-- The invariant rule for runs whose steps meet a condition. -/
theorem always_of_meets {I P : σ → Prop} {C : σ → α → Prop} (hP : ∀ s, I s → P s)
    (hstep : ∀ s a t, I s → C s a → M.step s a = some t → I t) {s : σ} {as : List α}
    (hs : I s) (hC : M.Meets C s as) : M.Always P s as := by
  induction as generalizing s with
  | nil => exact hP s hs
  | cons a as ih =>
    refine ⟨hP s hs, fun t ht => ?_⟩
    obtain ⟨hCs, hCt⟩ := hC t ht
    exact ih (hstep s a t hs hCs ht) hCt

/-- The invariant rule for all runs. -/
theorem always_of_invariant {I P : σ → Prop} (hP : ∀ s, I s → P s)
    (hstep : ∀ s a t, I s → M.step s a = some t → I t) {s : σ} (as : List α) (hs : I s) :
    M.Always P s as := by
  induction as generalizing s with
  | nil => exact hP s hs
  | cons a as ih => exact ⟨hP s hs, fun t ht => ih (hstep s a t hs ht)⟩

/-- What an invariant and the condition of a run imply about each of its steps. -/
theorem Meets.of_invariant {I : σ → Prop} {C D : σ → α → Prop}
    (hstep : ∀ s a t, I s → C s a → M.step s a = some t → I t ∧ D s a) {s : σ} {as : List α}
    (hs : I s) (hC : M.Meets C s as) : M.Meets D s as := by
  induction as generalizing s with
  | nil => trivial
  | cons a as ih =>
    intro t ht
    obtain ⟨hCs, hCt⟩ := hC t ht
    obtain ⟨ht', hD⟩ := hstep s a t hs hCs ht
    exact ⟨hD, ih ht' hCt⟩

/-- A condition that an invariant implies is met by all steps of a run. -/
theorem meets_of_invariant {I : σ → Prop} {C : σ → α → Prop}
    (hstep : ∀ s a t, I s → M.step s a = some t → I t) (hC : ∀ s a, I s → C s a) {s : σ}
    (as : List α) (hs : I s) : M.Meets C s as :=
  Meets.of_invariant (fun s a t h _ ht => ⟨hstep s a t h ht, hC s a h⟩) hs
    (meets_of_forall (fun _ _ => trivial) s as)

/-- Where a step outside the condition falsifies `P` at once, the condition is exact:
a run keeps `P` if and only if all its steps meet the condition. -/
theorem always_iff_meets {I P : σ → Prop} {C : σ → α → Prop} (hP : ∀ s, I s → P s)
    (hstep : ∀ s a t, I s → C s a → M.step s a = some t → I t)
    (hbad : ∀ s a t, I s → ¬ C s a → M.step s a = some t → ¬ P t) {s : σ} (as : List α)
    (hs : I s) : M.Always P s as ↔ M.Meets C s as := by
  refine ⟨fun h => ?_, always_of_meets hP hstep hs⟩
  induction as generalizing s with
  | nil => trivial
  | cons a as ih =>
    intro t ht
    have hC : C s a := by
      by_contra hC
      exact hbad s a t hs hC ht (h.2 t ht).head
    exact ⟨hC, ih (hstep s a t hs hC ht) (h.2 t ht)⟩

/-! ## Run predicates of a given run are decided by executing it -/

instance decidableAlways {P : σ → Prop} [DecidablePred P] :
    ∀ s as, Decidable (M.Always P s as)
  | s, [] => inferInstanceAs (Decidable (P s))
  | s, a :: as => match h : M.step s a with
    | none => decidable_of_iff (P s) (by simp [Always, h])
    | some t =>
      haveI : Decidable (M.Always P t as) := decidableAlways t as
      decidable_of_iff (P s ∧ M.Always P t as) (by simp [Always, h])

instance decidableMeets {C : σ → α → Prop} [∀ s a, Decidable (C s a)] :
    ∀ s as, Decidable (M.Meets C s as)
  | _, [] => isTrue trivial
  | s, a :: as => match h : M.step s a with
    | none => isTrue fun t ht => by simp [h] at ht
    | some t =>
      haveI : Decidable (M.Meets C t as) := decidableMeets t as
      decidable_of_iff (C s a ∧ M.Meets C t as) (by simp [Meets, h])

/-! ## Attaching a component that follows the steps -/

section Couple
variable {η : Type*}

/-- Run `follow` along with the machine. It sees every step, keeps a state of its own, and
may refuse a step. -/
def couple (M : Machine σ α) (follow : η → σ → α → σ → Option η) : Machine (σ × η) α where
  step p a := (M.step p.1 a).bind fun t => (follow p.2 p.1 a t).map fun h => (t, h)

/-- A history that records the steps and refuses none. -/
def observe (M : Machine σ α) (record : η → σ → α → σ → η) : Machine (σ × η) α :=
  M.couple fun h s a t => some (record h s a t)

theorem couple_step {follow : η → σ → α → σ → Option η} {p q : σ × η} {a : α} :
    (M.couple follow).step p a = some q ↔
      M.step p.1 a = some q.1 ∧ follow p.2 p.1 a q.1 = some q.2 := by
  rcases q with ⟨t, h⟩
  simp only [couple, Option.bind_eq_some_iff, Option.map_eq_some_iff, Prod.mk.injEq]
  constructor
  · rintro ⟨u, hu, k, hk, rfl, rfl⟩
    exact ⟨hu, hk⟩
  · rintro ⟨ht, hh⟩
    exact ⟨t, ht, h, hh, rfl, rfl⟩

theorem observe_step {record : η → σ → α → σ → η} {p q : σ × η} {a : α} :
    (M.observe record).step p a = some q ↔
      M.step p.1 a = some q.1 ∧ record p.2 p.1 a q.1 = q.2 := by
  simp [observe, couple_step]

end Couple

/-! ## Simulation by a more abstract machine -/

section Simulation
variable {τ β : Type*} {N : Machine τ β}

/-- Every step of `M` that meets `C` is, under `view`, a list of actions of `N`. A state
without a view is dead: no step leads from it to a state that has one. -/
def Simulates (M : Machine σ α) (N : Machine τ β) (view : σ → Option τ) (C : σ → α → Prop) :
    Prop :=
  ∀ s a t v, C s a → M.step s a = some t → view t = some v →
    ∃ u bs, view s = some u ∧ N.exec u bs = some v

/-- An invariant of the abstract machine holds along the simulated runs. -/
theorem Simulates.always {view : σ → Option τ} {C : σ → α → Prop} (hsim : M.Simulates N view C)
    {J : τ → Prop} {P : σ → Prop} (hJ : ∀ u b v, J u → N.step u b = some v → J v)
    (hP : ∀ s, (∀ u ∈ view s, J u) → P s) {s : σ} {as : List α} (hs : ∀ u ∈ view s, J u)
    (hC : M.Meets C s as) : M.Always P s as := by
  refine always_of_meets (I := fun s => ∀ u ∈ view s, J u) hP ?_ hs hC
  intro s a t hs hCa ht v hv
  obtain ⟨u, bs, hu, hbs⟩ := hsim s a t v hCa ht hv
  exact (always_of_invariant (fun _ h => h) hJ bs (hs u hu)).of_exec hbs

/-- Forward simulation: a relation that every step meeting `C` takes to some actions of `N`
relates every state of such a run to a state that `N` reaches. -/
theorem always_related {R : σ → τ → Prop} {C : σ → α → Prop}
    (hstep : ∀ s a t u, R s u → C s a → M.step s a = some t →
      ∃ bs v, N.exec u bs = some v ∧ R t v)
    {s : σ} {u : τ} {as : List α} (hR : R s u) (hC : M.Meets C s as) :
    M.Always (fun t => ∃ bs v, N.exec u bs = some v ∧ R t v) s as := by
  apply always_of_meets (fun _ h => h) ?_ ⟨[], u, N.exec_nil u, hR⟩ hC
  intro s a t hs hCa ht
  obtain ⟨bs, v, hbs, hv⟩ := hs
  obtain ⟨cs, w, hcs, hw⟩ := hstep s a t v hv hCa ht
  exact ⟨bs ++ cs, w, by rw [exec_append, hbs, Option.bind_some, hcs], hw⟩

end Simulation

end Machine
end AmusementPark.Library
