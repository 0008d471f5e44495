import Mathlib.Tactic

/-! # Procedures cut at their calls

A procedure that makes one call at each of its points. After the call it stands
at another point, returns to its caller, or is left by an exception; a call
through a null pointer is the end of the process.
-/
namespace AmusementPark.Library

/-- Where control goes after a call. -/
inductive Flow (π ρ ε : Type*) where
  | next (p : π)
  | returns (r : ρ)
  | throws (e : ε)
  | crashes

/-- The state after a call, and where control goes. -/
abbrev Outcome (σ π ρ ε : Type*) := σ × Flow π ρ ε

/-- What is to hold after a call, for each way on. -/
structure Post (σ π ρ : Type*) where
  next : σ → π → Prop
  returns : σ → ρ → Prop
  throws : σ → Prop
  crashes : σ → Prop

namespace Outcome
variable {σ π ρ ε α β : Type*}

/-- Make a call and continue with its value. -/
def call (s : σ) (r : Except ε α) (k : α → Outcome σ π ρ ε) : Outcome σ π ρ ε :=
  match r with
  | .ok a => k a
  | .error e => (s, .throws e)

/-- Make a call through a pointer. -/
def through (s : σ) (pointer : Bool) (k : Outcome σ π ρ ε) : Outcome σ π ρ ε :=
  if pointer then k else (s, .crashes)

def Satisfies (Q : Post σ π ρ) (o : Outcome σ π ρ ε) : Prop :=
  match o.2 with
  | .next p => Q.next o.1 p
  | .returns r => Q.returns o.1 r
  | .throws _ => Q.throws o.1
  | .crashes => Q.crashes o.1

variable {Q : Post σ π ρ} {s : σ} {r : Except ε α} {pointer : Bool} {k : Outcome σ π ρ ε}
  {f : α → Outcome σ π ρ ε}

@[simp] theorem satisfies_next (p : π) :
    Satisfies (ε := ε) Q (s, .next p) ↔ Q.next s p := Iff.rfl

@[simp] theorem satisfies_returns (b : ρ) :
    Satisfies (ε := ε) Q (s, .returns b) ↔ Q.returns s b := Iff.rfl

@[simp] theorem satisfies_throws (e : ε) : Satisfies Q (s, .throws e) ↔ Q.throws s := Iff.rfl

@[simp] theorem satisfies_crashes : Satisfies (ε := ε) Q (s, .crashes) ↔ Q.crashes s := Iff.rfl

@[simp] theorem satisfies_ite (c : Prop) [Decidable c] (g h : Flow π ρ ε) :
    Satisfies Q (s, if c then g else h) ↔
      (c → Satisfies Q (s, g)) ∧ (¬ c → Satisfies Q (s, h)) := by
  by_cases hc : c <;> simp [hc]

theorem satisfies_call : (call s r f).Satisfies Q ↔
    (∀ e, r = .error e → Q.throws s) ∧ ∀ a, r = .ok a → (f a).Satisfies Q := by
  cases r with
  | ok a => simp [call]
  | error e => simp [call]

theorem satisfies_call_map {b : Except ε β} {g : β → α} : (call s (b.map g) f).Satisfies Q ↔
    (∀ e, b = .error e → Q.throws s) ∧ ∀ a, b = .ok a → (f (g a)).Satisfies Q := by
  cases b with
  | ok a => simp [call, Except.map]
  | error e => simp [call, Except.map]

theorem satisfies_through : (through s pointer k).Satisfies Q ↔
    (pointer = false → Q.crashes s) ∧ (pointer = true → k.Satisfies Q) := by
  cases pointer with
  | false => simp [through]
  | true => simp [through]

/-- A procedure goes on past a call only with its value. -/
theorem next_of_call {q : π} (h : (call s r f).2 = .next q) :
    ∃ a, r = .ok a ∧ (f a).2 = .next q := by
  cases r with
  | error e => cases h
  | ok a => exact ⟨a, rfl, h⟩

/-! ## Calls that go well -/

/-- The call does not end the process, and the next point, if there is one, is `ready`. -/
def Safe (ready : σ → π → Prop) (o : Outcome σ π ρ ε) : Prop :=
  o.Satisfies ⟨ready, fun _ _ => True, fun _ => True, fun _ => False⟩

variable {ready : σ → π → Prop}

@[simp] theorem safe_next (p : π) : Safe (ρ := ρ) (ε := ε) ready (s, .next p) ↔ ready s p := Iff.rfl

@[simp] theorem safe_returns (b : ρ) : Safe (π := π) (ε := ε) ready (s, .returns b) := trivial

@[simp] theorem safe_ite (c : Prop) [Decidable c] (g h : Flow π ρ ε) :
    Safe ready (s, if c then g else h) ↔
      (c → Safe ready (s, g)) ∧ (¬ c → Safe ready (s, h)) :=
  satisfies_ite c g h

theorem safe_call : (call s r f).Safe ready ↔ ∀ a, r = .ok a → (f a).Safe ready := by
  simp [Safe, satisfies_call]

@[simp] theorem safe_call_map {b : Except ε β} {g : β → α} :
    (call s (b.map g) f).Safe ready ↔ ∀ a, b = .ok a → (f (g a)).Safe ready := by
  simp [Safe, satisfies_call_map]

@[simp] theorem safe_through : (through s pointer k).Safe ready ↔
    pointer = true ∧ k.Safe ready := by
  cases pointer with
  | false => simp [Safe, satisfies_through]
  | true => simp [Safe, satisfies_through]

/-! ## Whole calls -/

/-- A procedure run to its end. An exception leads to the point that `handler` names, if there is
one, and out of the procedure otherwise. -/
inductive Ends (step : σ → π → Outcome σ π ρ ε) (handler : π → Option π) :
    σ → π → Except ε ρ × σ → Prop where
  | returns {s t : σ} {p : π} {r : ρ} (h : step s p = (t, .returns r)) :
      Ends step handler s p (.ok r, t)
  | throws {s t : σ} {p : π} {e : ε} (h : step s p = (t, .throws e)) (hp : handler p = none) :
      Ends step handler s p (.error e, t)
  | caught {s t : σ} {p q : π} {e : ε} {o : Except ε ρ × σ} (h : step s p = (t, .throws e))
      (hp : handler p = some q) (hq : Ends step handler t q o) : Ends step handler s p o
  | next {s t : σ} {p q : π} {o : Except ε ρ × σ} (h : step s p = (t, .next q))
      (hq : Ends step handler t q o) : Ends step handler s p o

end Outcome
end AmusementPark.Library
