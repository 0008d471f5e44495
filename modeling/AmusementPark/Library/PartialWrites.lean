import Mathlib.Tactic

/-! # Writes that take a part of what they are given

A sequence of writes to some files, each with the number of its items that were
taken. A file has got all it was meant to have if and only if no write to it was
short; there is no way to make up for one later.
-/
namespace AmusementPark.Library

/-- A write to a file, of which the first `taken` items have got there. -/
structure PartialWrite (φ β : Type*) where
  file : φ
  text : List β
  taken : ℕ

namespace PartialWrite
variable {φ β : Type*}

/-- What has got to some files. -/
def kept (writes : List (PartialWrite φ β)) : List β :=
  writes.flatMap fun w => w.text.take w.taken

/-- What was meant for some files. -/
def asked (writes : List (PartialWrite φ β)) : List β := writes.flatMap PartialWrite.text

theorem length_kept_le (writes : List (PartialWrite φ β)) :
    (kept writes).length ≤ (asked writes).length := by
  induction writes with
  | nil => rfl
  | cons w writes ih =>
    simp only [kept, asked, List.flatMap_cons, List.length_append, List.length_take] at ih ⊢
    omega

/-- Everything has got there if and only if no write was short. -/
theorem kept_eq_asked_iff (writes : List (PartialWrite φ β)) :
    kept writes = asked writes ↔ ∀ w ∈ writes, w.text.length ≤ w.taken := by
  induction writes with
  | nil => simp [kept, asked]
  | cons w writes ih =>
    rw [List.forall_mem_cons, ← ih]
    have hkept : kept (w :: writes) = w.text.take w.taken ++ kept writes := List.flatMap_cons
    have hasked : asked (w :: writes) = w.text ++ asked writes := List.flatMap_cons
    rw [hkept, hasked]
    constructor
    · intro heq
      have hlength := congrArg List.length heq
      have hle := length_kept_le writes
      simp only [List.length_append, List.length_take] at hlength
      have hfull : w.text.length ≤ w.taken := by omega
      rw [List.take_of_length_le hfull] at heq
      exact ⟨hfull, List.append_cancel_left heq⟩
    · intro h
      rw [List.take_of_length_le h.1, h.2]

variable [DecidableEq φ]

/-- The writes to one file. -/
def forFile (f : φ) (writes : List (PartialWrite φ β)) : List (PartialWrite φ β) :=
  writes.filter fun w => w.file = f

theorem forFile_cons (f : φ) (w : PartialWrite φ β) (writes : List (PartialWrite φ β)) :
    forFile f (w :: writes) = if w.file = f then w :: forFile f writes else forFile f writes := by
  simp only [forFile, List.filter_cons, decide_eq_true_eq]

theorem kept_forFile_cons (f : φ) (w : PartialWrite φ β) (writes : List (PartialWrite φ β)) :
    kept (forFile f (w :: writes)) =
      (if w.file = f then w.text.take w.taken else []) ++ kept (forFile f writes) := by
  rw [forFile_cons]
  split <;> rfl

theorem kept_forFile_append (f : φ) (writes later : List (PartialWrite φ β)) :
    kept (forFile f (writes ++ later)) = kept (forFile f writes) ++ kept (forFile f later) := by
  rw [forFile, List.filter_append, kept, List.flatMap_append]
  rfl

theorem asked_forFile_cons (f : φ) (w : PartialWrite φ β) (writes : List (PartialWrite φ β)) :
    asked (forFile f (w :: writes)) =
      (if w.file = f then w.text else []) ++ asked (forFile f writes) := by
  rw [forFile_cons]
  split <;> rfl

/-- Every file has got everything if and only if no write was short. -/
theorem kept_forFile_eq_asked_iff (writes : List (PartialWrite φ β)) :
    (∀ f, kept (forFile f writes) = asked (forFile f writes)) ↔
      ∀ w ∈ writes, w.text.length ≤ w.taken := by
  constructor
  · intro h w hw
    apply (kept_eq_asked_iff (forFile w.file writes)).mp (h w.file)
    exact List.mem_filter.mpr ⟨hw, decide_eq_true rfl⟩
  · intro h f
    apply (kept_eq_asked_iff _).mpr
    intro w hw
    exact h w (List.mem_of_mem_filter hw)

end PartialWrite
end AmusementPark.Library
