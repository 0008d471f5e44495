import AmusementPark.Library.Machine

/-! # Permits and closing time

A house decides while it is open whom to let in, one at a time, hands out the
permit some steps later, and lets its holder in later still. It may close in
between. Everybody who is let in has a permit of his own that was decided in the
open house, and after closing time at most one more is let in.
-/
namespace AmusementPark.Library
variable {α : Type*}

/-- Those who are to get a permit, those who have got one, those who have been let in, and those of
them who came in after closing time. -/
structure LastCall (α : Type*) where
  decided : List α
  permits : List α
  admitted : List α
  late : List α

/-- Whom the house deals with: nobody, somebody who is to get a permit, or the holder of one. -/
inductive Guest (α : Type*) where
  | nobody
  | expected (a : α)
  | permitted (a : α)

namespace Guest

def expected? : Guest α → Option α
  | .expected a => some a
  | _ => none

def permitted? : Guest α → Option α
  | .permitted a => some a
  | _ => none

def count : Guest α → ℕ
  | .nobody => 0
  | .expected _ | .permitted _ => 1

end Guest

namespace LastCall

def empty : LastCall α := ⟨[], [], [], []⟩

/-- What may happen to an open or closed house and its guest. -/
inductive Move (isOpen : Bool) (guest : Guest α) (b : LastCall α) :
    Bool → Guest α → LastCall α → Prop where
  | keep : Move isOpen guest b isOpen guest b
  | lapse : Move isOpen guest b isOpen .nobody b
  | decide (a : α) (hopen : isOpen = true) :
      Move isOpen guest b isOpen (.expected a) { b with decided := b.decided ++ [a] }
  | permit (a : α) (h : guest = .expected a) :
      Move isOpen guest b isOpen (.permitted a) { b with permits := b.permits ++ [a] }
  | admitHeld (a : α) (h : guest = .permitted a) : Move isOpen guest b isOpen .nobody { b with
      admitted := b.admitted ++ [a], late := if isOpen then b.late else b.late ++ [a] }
  | close : Move isOpen guest b false guest b

/-- Everybody inside has a permit of his own, every permit has been decided in the open house, and
at most one came in late. -/
structure Orderly (isOpen : Bool) (b : LastCall α) : Prop where
  decided : b.permits.Sublist b.decided
  permits : b.admitted.Sublist b.permits
  early : isOpen = true → b.late = []
  late : b.late.length ≤ 1

/-- The same with the guest, whose place nobody else has taken. -/
structure Reserved (isOpen : Bool) (guest : Guest α) (b : LastCall α) : Prop where
  decided : (b.permits ++ guest.expected?.toList).Sublist b.decided
  permits : (b.admitted ++ guest.permitted?.toList).Sublist b.permits
  early : isOpen = true → b.late = []
  late : b.late.length + guest.count ≤ 1

variable {isOpen isOpen' : Bool} {guest guest' : Guest α} {b b' : LastCall α}

theorem Reserved.orderly (h : Reserved isOpen guest b) : Orderly isOpen b where
  decided := (List.sublist_append_left ..).trans h.decided
  permits := (List.sublist_append_left ..).trans h.permits
  early := h.early
  late := (Nat.le_add_right ..).trans h.late

theorem reserved_empty (isOpen : Bool) : Reserved isOpen .nobody (empty : LastCall α) where
  decided := List.Sublist.refl []
  permits := List.Sublist.refl []
  early _ := rfl
  late := Nat.zero_le 1

theorem Reserved.move (h : Reserved isOpen guest b)
    (hmove : Move isOpen guest b isOpen' guest' b') : Reserved isOpen' guest' b' := by
  cases hmove with
  | keep => exact h
  | lapse =>
    refine ⟨?_, ?_, h.early, (Nat.le_add_right ..).trans h.late⟩
    · simpa [Guest.expected?] using h.orderly.decided
    · simpa [Guest.permitted?] using h.orderly.permits
  | decide a hopen =>
    refine ⟨h.orderly.decided.append (List.Sublist.refl [a]), ?_, h.early, ?_⟩
    · simpa [Guest.permitted?] using h.orderly.permits
    · dsimp only
      rw [h.early hopen]
      exact Nat.le_refl 1
  | permit a hguest =>
    subst hguest
    refine ⟨?_, h.orderly.permits.append (List.Sublist.refl [a]), h.early, h.late⟩
    simpa [Guest.expected?] using h.decided
  | admitHeld a hguest =>
    subst hguest
    refine ⟨?_, ?_, ?_, ?_⟩
    · simpa [Guest.expected?] using h.orderly.decided
    · simpa [Guest.permitted?] using h.permits
    · intro hopen
      dsimp only
      rw [if_pos hopen]
      exact h.early hopen
    · dsimp only
      split
      · exact (Nat.le_add_right ..).trans h.late
      · simpa [Guest.count] using h.late
  | close => exact ⟨h.decided, h.permits, by rintro ⟨⟩, h.late⟩

/-- A machine whose steps are such moves is orderly in every run. -/
theorem orderly_of_move {σ β : Type*} {M : Machine (σ × LastCall α) β} (isOpen : σ → Bool)
    (guest : σ → Guest α)
    (hstep : ∀ x a y, M.step x a = some y →
      Move (isOpen x.1) (guest x.1) x.2 (isOpen y.1) (guest y.1) y.2)
    {s : σ} (hs : guest s = .nobody) (as : List β) :
    M.Always (fun x => x.2.Orderly (isOpen x.1)) (s, empty) as := by
  apply Machine.always_of_invariant (fun _ h => Reserved.orderly h)
    (fun x a y h hy => h.move (hstep x a y hy)) as
  rw [hs]
  exact reserved_empty (isOpen s)

end LastCall
end AmusementPark.Library
