import Mathlib.Tactic

/-! # Computations that keep their state when they throw

`EStateM` with rules for the computations that only look at the state: they end
or throw, and the state is what it was. A clean-up that is run on both ways out
of such a computation then has the same effect on either.
-/
namespace AmusementPark.Library

/-- An exception derived from `std::exception`, with the text of `what`. -/
structure StdException where
  what : String
deriving DecidableEq

variable {ε σ α β : Type}

/-- The computation ends or throws, and leaves the state as it is. -/
def Keeps (m : EStateM ε σ α) : Prop := ∀ s, (∃ a, m s = .ok a s) ∨ ∃ e, m s = .error e s

theorem bind_of_ok {m : EStateM ε σ α} {f : α → EStateM ε σ β} {s t : σ} {a : α}
    (h : m s = .ok a t) : (m >>= f) s = f a t := by
  change EStateM.bind m f s = f a t
  rw [EStateM.bind, h]

theorem bind_of_error {m : EStateM ε σ α} {f : α → EStateM ε σ β} {s t : σ} {e : ε}
    (h : m s = .error e t) : (m >>= f) s = .error e t := by
  change EStateM.bind m f s = .error e t
  rw [EStateM.bind, h]

theorem tryCatch_of_ok {m : EStateM ε σ α} {handler : ε → EStateM ε σ α} {s t : σ} {a : α}
    (h : m s = .ok a t) : (tryCatch m handler) s = .ok a t := by
  change EStateM.tryCatch m handler s = .ok a t
  rw [EStateM.tryCatch, h]

theorem tryCatch_of_error {m : EStateM ε σ α} {handler : ε → EStateM ε σ α} {s t : σ} {e : ε}
    (h : m s = .error e t) : (tryCatch m handler) s = handler e t := by
  change EStateM.tryCatch m handler s = handler e t
  rw [EStateM.tryCatch, h]
  rfl

theorem keeps_pure (a : α) : Keeps (pure a : EStateM ε σ α) := fun _ => .inl ⟨a, rfl⟩

theorem keeps_throw (e : ε) : Keeps (throw e : EStateM ε σ α) := fun _ => .inr ⟨e, rfl⟩

theorem keeps_get : Keeps (get : EStateM ε σ σ) := fun s => .inl ⟨s, rfl⟩

theorem Keeps.bind {m : EStateM ε σ α} {f : α → EStateM ε σ β} (hm : Keeps m)
    (hf : ∀ a, Keeps (f a)) : Keeps (m >>= f) := by
  intro s
  obtain ⟨a, ha⟩ | ⟨e, he⟩ := hm s
  · rw [bind_of_ok ha]
    exact hf a s
  · rw [bind_of_error he]
    exact .inr ⟨e, rfl⟩

theorem Keeps.handle {m : EStateM ε σ α} {handler : ε → EStateM ε σ α} (hm : Keeps m)
    (hhandler : ∀ e, Keeps (handler e)) : Keeps (tryCatch m handler) := by
  intro s
  obtain ⟨a, ha⟩ | ⟨e, he⟩ := hm s
  · rw [tryCatch_of_ok ha]
    exact .inl ⟨a, rfl⟩
  · rw [tryCatch_of_error he]
    exact hhandler e s

theorem keeps_ofExcept (r : Except ε α) : Keeps (ofExcept r : EStateM ε σ α) := by
  cases r with
  | ok a => exact keeps_pure a
  | error e => exact keeps_throw e

theorem Keeps.ite {c : Prop} [Decidable c] {m n : EStateM ε σ α} (hm : Keeps m) (hn : Keeps n) :
    Keeps (if c then m else n) := by
  split
  · exact hm
  · exact hn

/-- A clean-up on both ways out of a computation that keeps the state. -/
theorem Keeps.cleanup {m : EStateM ε σ Unit} (hm : Keeps m) {cleanup : EStateM ε σ Unit} {s t : σ}
    (hc : cleanup s = .ok () t) :
    ∃ r : Except ε Unit, (do
      try m catch e => do
        cleanup
        throw e
      cleanup : EStateM ε σ Unit) s = match r with
        | .ok () => .ok () t
        | .error e => .error e t := by
  obtain ⟨⟨⟩, ha⟩ | ⟨e, he⟩ := hm s
  · refine ⟨.ok (), ?_⟩
    rw [bind_of_ok (tryCatch_of_ok ha), hc]
  · refine ⟨.error e, ?_⟩
    have hthrow : (tryCatch m fun e => do
        cleanup
        throw e) s = .error e t := by
      rw [tryCatch_of_error he, bind_of_ok hc]
      rfl
    rw [bind_of_error hthrow]

end AmusementPark.Library
