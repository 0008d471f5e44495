import AmusementPark.Ipc.SemSignal
import AmusementPark.Library.Exceptions
import AmusementPark.Library.Holdings
import AmusementPark.Library.Machine

/-! # Who removes a semaphore array

A `SemaphoreArray` object from its construction to its destruction, with the
arrays it creates and removes. `DeleteSemaphoreArray` leaves the owner flag and
the id as they are, so an object that has removed its array is still one that
owns it, and tries to remove it again.
-/
namespace AmusementPark.Ipc
open Library

/-- The results of the calls of `GetSemaphoreArray`; `ftok` returns -1 when it fails. `foreign` is
what `IPC_RMID` returns for an id that the object has never created. -/
structure GetOutcome where
  fileCreated : Bool
  ftok : ℤ
  semget : Option ℕ
  foreign : Bool

/-- The object with its history: the arrays it has created and the `IPC_RMID` it has issued, and
whether it has removed its array and `semget` has not succeeded since. -/
structure ArrayObject where
  isOwner : Bool
  array : SemaphoreArray
  arrays : List (Use ℤ)
  removed : Bool
  destroyed : Bool

inductive ArrayAction where
  | get (nSems : ℕ) (create : Bool) (o : GetOutcome)
  | delete (foreign : Bool)
  | destroy (foreign : Bool)

namespace ArrayObject

/-- The constructor. -/
def init : ArrayObject := ⟨false, ⟨-1, -1, 0⟩, [], false, false⟩

/-- `IPC_RMID` on the id of the object removes an array that is there and fails on one that the
object has removed. -/
def ipcRmid (s : ArrayObject) (foreign : Bool) : Bool :=
  decide (s.array.id ∈ held s.arrays) || (foreign && !s.arrays.contains (.acquire s.array.id))

def deleteSemaphoreArray (foreign : Bool) (s : ArrayObject) :
    Except StdException Bool × ArrayObject :=
  if !s.isOwner || s.array.isEmpty then (.ok false, s)
  else
    let done := s.ipcRmid foreign
    let s := { s with
      arrays := .release s.array.id done :: s.arrays
      removed := s.removed || done }
    if !done then (.error ⟨"Couldn't delete semaphore array!"⟩, s)
    else (.ok true, s)

/-- `GetSemaphoreArray` from `ftok` on. -/
def semGet (nSems : ℕ) (create : Bool) (o : GetOutcome) (s : ArrayObject) :
    Except StdException Bool × ArrayObject :=
  let s := { s with array := { s.array with key := o.ftok } }
  if o.ftok = -1 then (.error ⟨"Couldn't generate semaphore array key!"⟩, s)
  else match o.semget with
    | none => (.error ⟨"Couldn't create semaphore array key!"⟩,
        { s with array := { s.array with id := -1 } })
    | some id => (.ok true, { s with
        isOwner := create
        array := ⟨o.ftok, id, nSems⟩
        arrays := if create then .acquire (id : ℤ) :: s.arrays else s.arrays
        removed := false })

def getSemaphoreArray (nSems : ℕ) (create : Bool) (o : GetOutcome) (s : ArrayObject) :
    Except StdException Bool × ArrayObject :=
  if nSems = 0 then (.ok false, s)
  else if create && !o.fileCreated then
    (.error ⟨"Couldn't create semaphore array file!"⟩, s)
  else if s.array.size ≠ 0 then
    match s.deleteSemaphoreArray o.foreign with
    | (.error e, s) => (.error e, s)
    | (.ok _, s) => s.semGet nSems create o
  else s.semGet nSems create o

/-- The destructor calls `DeleteSemaphoreArray`. An exception does not leave it, but ends the
process. -/
def step (s : ArrayObject) (a : ArrayAction) : Option ArrayObject :=
  if s.destroyed then none else some <|
    match a with
    | .get nSems create o => (s.getSemaphoreArray nSems create o).2
    | .delete foreign => (s.deleteSemaphoreArray foreign).2
    | .destroy foreign => { (s.deleteSemaphoreArray foreign).2 with destroyed := true }

def machine : Machine ArrayObject ArrayAction := ⟨step⟩

/-! ## What is asked of an object -/

/-- `IPC_RMID` is issued only for arrays that the object has created and not removed, it never
fails, and each array the object has created has been removed exactly once when the object is
gone. -/
structure RemovesOnce (s : ArrayObject) : Prop where
  orderly : Orderly s.arrays
  succeeds : ∀ u ∈ s.arrays, u.done = true
  complete : s.destroyed = true →
    ∀ id, s.arrays.count (.release id true) = s.arrays.count (.acquire id)

/-- The step gets as far as the `semctl` of `DeleteSemaphoreArray`. -/
def Deletes (s : ArrayObject) (a : ArrayAction) : Prop :=
  s.isOwner = true ∧ s.array.isEmpty = false ∧
    match a with
    | .get nSems create o => nSems ≠ 0 ∧ (create = true → o.fileCreated = true) ∧ s.array.size ≠ 0
    | .delete _ => True
    | .destroy _ => True

/-- An object that has removed its array, and has got none since, does not try to remove one. -/
def NotSpent (s : ArrayObject) (a : ArrayAction) : Prop := s.removed = true → ¬ s.Deletes a

/-! ## The three shapes of an object -/

/-- The object owns nothing. -/
structure Guest (s : ArrayObject) : Prop where
  removed : s.removed = false
  isOwner : s.isOwner = false
  arrays : held s.arrays = 0

/-- The object owns the array with its id. -/
structure Owner (s : ArrayObject) : Prop where
  removed : s.removed = false
  isOwner : s.isOwner = true
  id : 0 ≤ s.array.id
  size : s.array.size ≠ 0
  arrays : held s.arrays = {s.array.id}

/-- The object has removed its array and does not know it. -/
structure Spent (s : ArrayObject) : Prop where
  removed : s.removed = true
  isOwner : s.isOwner = true
  size : s.array.size ≠ 0
  arrays : held s.arrays = 0

/-- The invariant of an object that has misused nothing. -/
structure Sound (s : ArrayObject) : Prop where
  orderly : Orderly s.arrays
  succeeds : ∀ u ∈ s.arrays, u.done = true
  shape : s.Guest ∨ s.Owner ∨ s.Spent
  complete : s.destroyed = true → held s.arrays = 0

variable {s t : ArrayObject}

theorem sound_init : init.Sound :=
  ⟨trivial, by simp [init], .inl ⟨rfl, rfl, rfl⟩, fun _ => rfl⟩

theorem Sound.removesOnce (hs : s.Sound) : s.RemovesOnce :=
  ⟨hs.orderly, hs.succeeds, fun h id => hs.orderly.count_eq_of_held (hs.complete h) id⟩

theorem Owner.not_empty (h : s.Owner) : s.array.isEmpty = false := by
  have := h.id
  rw [SemaphoreArray.isEmpty, decide_eq_false_iff_not]
  omega

theorem Owner.mem_held (h : s.Owner) : s.array.id ∈ held s.arrays := by
  rw [h.arrays]
  exact Multiset.mem_singleton_self _

/-- An owner removes its array. -/
theorem deleteSemaphoreArray_of_owner (h : s.Owner) (foreign : Bool) :
    s.deleteSemaphoreArray foreign =
      (.ok true, { s with arrays := .release s.array.id true :: s.arrays, removed := true }) := by
  have hdone : s.ipcRmid foreign = true := by simp [ipcRmid, h.mem_held]
  simp [deleteSemaphoreArray, h.isOwner, h.not_empty, hdone]

theorem Sound.delete_owner (hs : s.Sound) (h : s.Owner) : Sound { s with
    arrays := .release s.array.id true :: s.arrays
    removed := true } ∧ Spent { s with
    arrays := .release s.array.id true :: s.arrays
    removed := true } := by
  have hnone := held_release_of_singleton h.arrays
  have hspent : Spent { s with
      arrays := .release s.array.id true :: s.arrays
      removed := true } := ⟨rfl, h.isOwner, h.size, hnone⟩
  exact ⟨⟨hs.orderly.release h.arrays true, List.forall_mem_cons.mpr ⟨rfl, hs.succeeds⟩,
    .inr (.inr hspent), fun _ => hnone⟩, hspent⟩

/-- An object that does not get as far as `semctl` stays as it is. -/
theorem deleteSemaphoreArray_of_not (h : ¬ (s.isOwner = true ∧ s.array.isEmpty = false))
    (foreign : Bool) : s.deleteSemaphoreArray foreign = (.ok false, s) := by
  have hcond : (!s.isOwner || s.array.isEmpty) = true := by
    cases howner : s.isOwner with
    | false => rfl
    | true =>
      cases hempty : s.array.isEmpty with
      | true => rfl
      | false => exact absurd ⟨howner, hempty⟩ h
  rw [deleteSemaphoreArray, if_pos hcond]

/-- An object that holds nothing gets an array or stays as it is but for the key and the id. -/
theorem Sound.semGet (hs : s.Sound) (halive : s.destroyed = false) (hshape : s.Guest ∨ s.Spent)
    {nSems : ℕ} (hn : nSems ≠ 0) (create : Bool) (o : GetOutcome) :
    (s.semGet nSems create o).2.Sound := by
  have hnone : held s.arrays = 0 := hshape.elim Guest.arrays Spent.arrays
  have hkeep (key id : ℤ) : Sound { s with array := { s.array with key := key, id := id } } := by
    refine ⟨hs.orderly, hs.succeeds, ?_, hs.complete⟩
    cases hshape with
    | inl h => exact .inl ⟨h.removed, h.isOwner, h.arrays⟩
    | inr h => exact .inr (.inr ⟨h.removed, h.isOwner, h.size, h.arrays⟩)
  simp only [ArrayObject.semGet]
  split
  · exact hkeep o.ftok s.array.id
  · split
    · exact hkeep o.ftok (-1)
    · next id _ =>
      cases create with
      | false => exact ⟨hs.orderly, hs.succeeds, .inl ⟨rfl, rfl, hnone⟩, hs.complete⟩
      | true =>
        refine ⟨hs.orderly, ?_, .inr (.inl ⟨rfl, rfl, Int.natCast_nonneg id, hn, ?_⟩), ?_⟩
        · exact List.forall_mem_cons.mpr ⟨rfl, hs.succeeds⟩
        · simp [hnone]
        · intro hdestroyed
          cases halive.symm.trans hdestroyed

theorem Sound.destroy (hs : s.Sound) (h : held s.arrays = 0) :
    Sound { s with destroyed := true } := by
  refine ⟨hs.orderly, hs.succeeds, ?_, fun _ => h⟩
  obtain hguest | howner | hspent := hs.shape
  · exact .inl ⟨hguest.1, hguest.2, hguest.3⟩
  · exact .inr (.inl ⟨howner.1, howner.2, howner.3, howner.4, howner.5⟩)
  · exact .inr (.inr ⟨hspent.1, hspent.2, hspent.3, hspent.4⟩)

/-! ## Runs -/

/-- `DeleteSemaphoreArray` does not throw and leaves the object with nothing, unless it tries to
remove an array a second time. -/
theorem Sound.delete (hs : s.Sound)
    (hnot : s.removed = true → ¬ (s.isOwner = true ∧ s.array.isEmpty = false)) (foreign : Bool) :
    ∃ b u, s.deleteSemaphoreArray foreign = (.ok b, u) ∧ u.Sound ∧
      u.destroyed = s.destroyed ∧ (u.Guest ∨ u.Spent) := by
  obtain hguest | howner | hspent := hs.shape
  · refine ⟨false, s, deleteSemaphoreArray_of_not ?_ foreign, hs, rfl, .inl hguest⟩
    simp [hguest.isOwner]
  · obtain ⟨hsound, hspent⟩ := hs.delete_owner howner
    exact ⟨true, _, deleteSemaphoreArray_of_owner howner foreign, hsound, rfl, .inr hspent⟩
  · exact ⟨false, s, deleteSemaphoreArray_of_not (hnot hspent.removed) foreign, hs, rfl,
      .inr hspent⟩

theorem Sound.get (hs : s.Sound) (halive : s.destroyed = false) {nSems : ℕ} {create : Bool}
    {o : GetOutcome} (ha : s.NotSpent (.get nSems create o)) :
    (s.getSemaphoreArray nSems create o).2.Sound := by
  unfold getSemaphoreArray
  split
  · exact hs
  next hn =>
    split
    · exact hs
    next hfile =>
      split
      next hsize =>
        have hnot : s.removed = true → ¬ (s.isOwner = true ∧ s.array.isEmpty = false) := by
          intro hremoved hreach
          apply ha hremoved
          refine ⟨hreach.1, hreach.2, hn, ?_, hsize⟩
          intro hcreate
          simpa [hcreate] using hfile
        obtain ⟨b, u, hrun, hu, hdestroyed, hshape⟩ := hs.delete hnot o.foreign
        rw [hrun]
        exact hu.semGet (hdestroyed.trans halive) hshape hn create o
      next hsize =>
        obtain hguest | howner | hspent := hs.shape
        · exact hs.semGet halive (.inl hguest) hn create o
        · exact absurd howner.size hsize
        · exact absurd hspent.size hsize

theorem Sound.step (hs : s.Sound) {a : ArrayAction} (ha : s.NotSpent a)
    (h : machine.step s a = some t) : t.Sound := by
  simp only [machine, ArrayObject.step, Option.ite_none_left_eq_some, Option.some.injEq] at h
  obtain ⟨halive, rfl⟩ := h
  cases a with
  | get nSems create o => exact hs.get (Bool.not_eq_true _ ▸ halive) ha
  | delete foreign =>
    obtain ⟨b, u, hrun, hu, -, -⟩ := hs.delete
      (fun hremoved hreach => ha hremoved ⟨hreach.1, hreach.2, trivial⟩) foreign
    simp only [hrun]
    exact hu
  | destroy foreign =>
    obtain ⟨b, u, hrun, hu, -, hshape⟩ := hs.delete
      (fun hremoved hreach => ha hremoved ⟨hreach.1, hreach.2, trivial⟩) foreign
    simp only [hrun]
    exact hu.destroy (hshape.elim Guest.arrays Spent.arrays)

/-- A spent object issues an `IPC_RMID` for nothing that it holds. -/
theorem deleteSemaphoreArray_of_spent (h : s.Spent) (hempty : s.array.isEmpty = false)
    (foreign : Bool) : ¬ Orderly (s.deleteSemaphoreArray foreign).2.arrays := by
  have hmisused := not_orderly_release h.arrays s.array.id
  simp only [deleteSemaphoreArray, h.isOwner, hempty, Bool.not_true, Bool.or_self,
    Bool.false_eq_true, if_false]
  split <;> exact hmisused _

/-- `semget` only adds to the history. -/
theorem orderly_of_semGet {nSems : ℕ} {create : Bool} {o : GetOutcome}
    (h : Orderly (s.semGet nSems create o).2.arrays) : Orderly s.arrays := by
  simp only [ArrayObject.semGet] at h
  split at h
  · exact h
  · split at h
    · exact h
    · cases create <;> exact h

theorem not_removesOnce_of_spent (hs : s.Sound) {a : ArrayAction} (ha : ¬ s.NotSpent a)
    (h : machine.step s a = some t) : ¬ t.RemovesOnce := by
  simp only [NotSpent, Classical.not_imp, not_not] at ha
  obtain ⟨hremoved, howner, hempty, hreach⟩ := ha
  have hspent : s.Spent := by
    obtain hguest | howner | hspent := hs.shape
    · cases hguest.removed.symm.trans hremoved
    · cases howner.removed.symm.trans hremoved
    · exact hspent
  intro hremoves
  have horderly := hremoves.orderly
  simp only [machine, ArrayObject.step, Option.ite_none_left_eq_some, Option.some.injEq] at h
  obtain ⟨-, rfl⟩ := h
  cases a with
  | delete foreign => exact deleteSemaphoreArray_of_spent hspent hempty foreign horderly
  | destroy foreign => exact deleteSemaphoreArray_of_spent hspent hempty foreign horderly
  | get nSems create o =>
    obtain ⟨hn, hfile, hsize⟩ := hreach
    have hmisused := deleteSemaphoreArray_of_spent hspent hempty o.foreign
    have hcreated : ¬ (create && !o.fileCreated) = true := by
      cases create with
      | false => simp
      | true => simp [hfile rfl]
    simp only [getSemaphoreArray, hn, if_false, hcreated, if_pos hsize] at horderly
    rcases hrun : s.deleteSemaphoreArray o.foreign with ⟨e | b, u⟩
    · rw [hrun] at horderly hmisused
      exact hmisused horderly
    · rw [hrun] at horderly hmisused
      exact hmisused (orderly_of_semGet horderly)

/-- An object removes each array it has created exactly once and no other, in every run, exactly
as long as it does not get to the removal again after it has removed its array. -/
theorem removesOnce_iff_notSpent (as : List ArrayAction) :
    machine.Always RemovesOnce init as ↔ machine.Meets NotSpent init as :=
  Machine.always_iff_meets (fun _ h => h.removesOnce) (fun _ _ _ hs ha h => hs.step ha h)
    (fun _ _ _ hs ha h => not_removesOnce_of_spent hs ha h) as sound_init

/-- An array that is created and deleted, and the destruction of its object. -/
def deletedThenDestroyed : List ArrayAction :=
  [.get 60 true ⟨true, 7, some 5, false⟩, .delete false, .destroy false]

/-- An array that is created, and created again when the new one cannot be had. -/
def recreationFails : List ArrayAction :=
  [.get 60 true ⟨true, 7, some 5, false⟩, .get 60 true ⟨true, 8, none, false⟩, .destroy false]

/-- Both destructors try to remove an array that is not there, and throw. -/
theorem deletedThenDestroyed_removes_twice :
    (machine.exec init deletedThenDestroyed).map ArrayObject.arrays =
      some [.release 5 false, .release 5 true, .acquire 5] ∧
    (machine.exec init recreationFails).map ArrayObject.arrays =
      some [.release (-1) false, .release 5 true, .acquire 5] ∧
    ¬ machine.Always RemovesOnce init deletedThenDestroyed ∧
    ¬ machine.Always RemovesOnce init recreationFails := by
  have hfirst : ∃ s, machine.exec init deletedThenDestroyed = some s ∧ ¬ Orderly s.arrays :=
    ⟨_, rfl, by decide⟩
  have hsecond : ∃ s, machine.exec init recreationFails = some s ∧ ¬ Orderly s.arrays :=
    ⟨_, rfl, by decide⟩
  refine ⟨by decide, by decide, ?_, ?_⟩
  · intro halways
    obtain ⟨s, hs, hnot⟩ := hfirst
    exact hnot (halways.of_exec hs).orderly
  · intro halways
    obtain ⟨s, hs, hnot⟩ := hsecond
    exact hnot (halways.of_exec hs).orderly

end ArrayObject
end AmusementPark.Ipc
