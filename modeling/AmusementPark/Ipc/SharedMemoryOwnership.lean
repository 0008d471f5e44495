import AmusementPark.Library.Exceptions
import AmusementPark.Library.Holdings
import AmusementPark.Library.Machine

/-! # Who removes a shared memory segment

A `SharedMemory` object from its construction to its destruction, with the
segments it creates and the pointers it hands out. `shmat` reports a failure
with `(void*)-1`, and `AttachMemory` looks for a null pointer. Whether there is
something to clean up is read off the pointer alone.
-/
namespace AmusementPark.Ipc
open Library

/-- The values of the pointer to the data: null, `(void*)-1` or the address of a mapped segment. -/
inductive MemPtr where
  | null
  | failed
  | mapped
deriving DecidableEq

def shmat (mapped : Bool) : MemPtr := if mapped then .mapped else .failed

structure SharedMemoryData where
  key : ℤ
  id : ℤ
deriving DecidableEq

def SharedMemoryData.isEmpty (d : SharedMemoryData) : Bool := decide (d.key < 0 ∧ d.id < 0)

/-- Whether `shmdt` of a mapped segment and `shmctl` succeed. -/
structure DetachOutcome where
  shmdt : Bool
  shmctl : Bool
deriving DecidableEq

/-- The results of the calls of `AttachMemory`; `ftok` returns -1 when it fails. -/
structure AttachOutcome where
  fileCreated : Bool
  detaching : DetachOutcome
  ftok : ℤ
  shmget : Option ℕ
  shmat : Bool

/-- The object with its history: the segments it has created and the `IPC_RMID` it has issued, and
the pointers with which `AttachMemory` has returned true. -/
structure MemoryObject where
  memPtr : MemPtr
  memData : SharedMemoryData
  isOwner : Bool
  sem : Option ℕ
  segments : List (Use ℤ)
  attachments : List MemPtr
  destroyed : Bool

inductive MemoryAction where
  | attach (shmSemaphore : Option ℕ) (create : Bool) (o : AttachOutcome)
  | detach (o : DetachOutcome)
  | destroy (o : DetachOutcome)

namespace MemoryObject

/-- The constructor. -/
def init : MemoryObject := ⟨.null, ⟨-1, -1⟩, false, none, [], [], false⟩

/-- `shmdt` knows only the addresses of mapped segments. -/
def shmdt (s : MemoryObject) (o : DetachOutcome) : Bool := decide (s.memPtr = .mapped) && o.shmdt

def pDeleteMemory (o : DetachOutcome) (s : MemoryObject) :
    Except StdException Unit × MemoryObject :=
  let s := { s with segments := .release s.memData.id o.shmctl :: s.segments }
  if !o.shmctl then (.error ⟨"Couldn't delete shared memory!"⟩, s)
  else (.ok (), { s with isOwner := false, memData := ⟨-1, -1⟩, memPtr := .null })

def pDetachMemory (o : DetachOutcome) (s : MemoryObject) :
    Except StdException Bool × MemoryObject :=
  if s.memPtr = .null then (.ok true, s)
  else if !s.shmdt o then (.error ⟨"Couldn't detach shared memory!"⟩, s)
  else
    let s := { s with memPtr := .null }
    if s.isOwner then
      match s.pDeleteMemory o with
      | (.error e, s) => (.error e, s)
      | (.ok (), s) => (.ok true, { s with memData := ⟨-1, -1⟩ })
    else (.ok true, { s with memData := ⟨-1, -1⟩ })

/-- `AttachMemory` from `ftok` on. A creator without a semaphore dereferences a null pointer. -/
def shmGet (shmSemaphore : Option ℕ) (create : Bool) (o : AttachOutcome) (s : MemoryObject) :
    Option (Except StdException Bool × MemoryObject) :=
  let s := { s with memData := { s.memData with key := o.ftok } }
  if o.ftok = -1 then some (.error ⟨"Couldn't generate shared memory key!"⟩, s)
  else match o.shmget with
    | none => some (.error ⟨"Couldn't allocate shared memory!"⟩,
        { s with memData := { s.memData with id := -1 } })
    | some id =>
      let s := { s with
        memData := ⟨o.ftok, id⟩
        isOwner := create
        memPtr := shmat o.shmat
        segments := if create then .acquire (id : ℤ) :: s.segments else s.segments }
      if s.memPtr = .null then some (.error ⟨"Couldn't attach shared memory!"⟩, s)
      else if create && shmSemaphore.isNone then none
      else some (.ok true, { s with
        sem := shmSemaphore
        attachments := s.memPtr :: s.attachments })

def pAttachMemory (shmSemaphore : Option ℕ) (create : Bool) (o : AttachOutcome)
    (s : MemoryObject) : Option (Except StdException Bool × MemoryObject) :=
  if create && !o.fileCreated then
    some (.error ⟨"Couldn't create shared memory file!"⟩, s)
  else if !s.memData.isEmpty then
    match s.pDetachMemory o.detaching with
    | (.error e, s) => some (.error e, s)
    | (.ok _, s) => s.shmGet shmSemaphore create o
  else s.shmGet shmSemaphore create o

/-- The destructor calls `pDetachMemory`. An exception does not leave it, but ends the process. -/
def step (s : MemoryObject) (a : MemoryAction) : Option MemoryObject :=
  if s.destroyed then none else
    match a with
    | .attach shmSemaphore create o => (s.pAttachMemory shmSemaphore create o).map Prod.snd
    | .detach o => some (s.pDetachMemory o).2
    | .destroy o => some { (s.pDetachMemory o).2 with destroyed := true }

def machine : Machine MemoryObject MemoryAction := ⟨step⟩

/-! ## What is asked of an object -/

/-- `AttachMemory` has returned true only with a mapped segment, `GetData` gives no invalid address,
and all segments the object has created have been removed when it is gone. -/
structure CleansUp (s : MemoryObject) : Prop where
  attached : ∀ p ∈ s.attachments, p = .mapped
  getData : s.memPtr ≠ .failed
  removed : s.destroyed = true → held s.segments = 0

/-- `pDetachMemory` gets to its end. -/
def Detaches (s : MemoryObject) (o : DetachOutcome) : Prop :=
  s.memPtr ≠ .null → s.shmdt o = true ∧ (s.isOwner = true → o.shmctl = true)

/-- `AttachMemory` gets as far as `shmat`. -/
def ReachesShmat (s : MemoryObject) (create : Bool) (o : AttachOutcome) : Prop :=
  (create = true → o.fileCreated = true) ∧
    (s.memData.isEmpty = false → s.Detaches o.detaching) ∧ o.ftok ≠ -1 ∧ o.shmget ≠ none

/-- Every `shmat` succeeds. No `IPC_RMID` has failed when the object is destroyed, and an owner is
then detached to the end. -/
def Cooperates (s : MemoryObject) : MemoryAction → Prop
  | .attach _ create o => s.ReachesShmat create o → o.shmat = true
  | .detach _ => True
  | .destroy o => (∀ u ∈ s.segments, u.done = true) ∧ (s.isOwner = true → s.Detaches o)

/-! ## The segments an object holds -/

/-- The segment that detaching removes. -/
def owned (s : MemoryObject) : Multiset ℤ :=
  if s.memPtr = .mapped ∧ s.isOwner = true then {s.memData.id} else 0

/-- The invariant of an object all of whose `shmat` have succeeded: what it has created and not
removed is mapped, or was given up. -/
structure Sound (s : MemoryObject) : Prop where
  attached : ∀ p ∈ s.attachments, p = .mapped
  getData : s.memPtr ≠ .failed
  id : s.memPtr = .mapped → 0 ≤ s.memData.id
  segments : held s.segments = abandoned s.segments + s.owned

variable {s t : MemoryObject}

theorem sound_init : init.Sound := ⟨by simp [init], by simp [init], by simp [init], rfl⟩

theorem owned_of_null (h : s.memPtr = .null) : s.owned = 0 := by simp [owned, h]

theorem owned_of_guest (h : s.isOwner = false) : s.owned = 0 := by simp [owned, h]

theorem owned_of_mapped (h : s.memPtr = .mapped) (howner : s.isOwner = true) :
    s.owned = {s.memData.id} := by simp [owned, h, howner]

/-- The pointer of a sound object is null or mapped. -/
theorem Sound.mapped (hs : s.Sound) (h : s.memPtr ≠ .null) : s.memPtr = .mapped := by
  have hvalid := hs.getData
  cases hptr : s.memPtr with
  | null => exact absurd hptr h
  | failed => exact absurd hptr hvalid
  | mapped => rfl

/-- An object without a mapping holds what it has given up. -/
theorem Sound.held_of_null (hs : s.Sound) (h : s.memPtr = .null) :
    held s.segments = abandoned s.segments := by
  rw [hs.segments, owned_of_null h, add_zero]

theorem Sound.of_null (hs : s.Sound) (hattachments : t.attachments = s.attachments)
    (hptr : t.memPtr = .null) (hsegments : held t.segments = abandoned t.segments) : t.Sound := by
  refine ⟨hattachments ▸ hs.attached, ?_, ?_, ?_⟩
  · simp [hptr]
  · simp [hptr]
  · rw [hsegments, owned_of_null hptr, add_zero]

/-! ## What detaching does -/

/-- `pDetachMemory` without a mapping does nothing. -/
theorem pDetachMemory_of_null (h : s.memPtr = .null) (o : DetachOutcome) :
    s.pDetachMemory o = (.ok true, s) := by
  rw [pDetachMemory, if_pos h]

/-- A `shmdt` that fails leaves the object as it is. -/
theorem pDetachMemory_of_not_shmdt (h : s.memPtr ≠ .null) {o : DetachOutcome}
    (ho : s.shmdt o = false) :
    s.pDetachMemory o = (.error ⟨"Couldn't detach shared memory!"⟩, s) := by
  simp [pDetachMemory, h, ho]

/-- A guest only lets go of the segment. -/
theorem pDetachMemory_of_guest (h : s.memPtr ≠ .null) {o : DetachOutcome}
    (ho : s.shmdt o = true) (howner : s.isOwner = false) :
    s.pDetachMemory o = (.ok true, { s with memPtr := .null, memData := ⟨-1, -1⟩ }) := by
  simp [pDetachMemory, h, ho, howner]

/-- An owner removes its segment, or gives it up. -/
theorem pDetachMemory_of_owner (h : s.memPtr ≠ .null) {o : DetachOutcome}
    (ho : s.shmdt o = true) (howner : s.isOwner = true) :
    s.pDetachMemory o = if o.shmctl then
      (.ok true, { s with
        memPtr := .null
        memData := ⟨-1, -1⟩
        isOwner := false
        segments := .release s.memData.id true :: s.segments })
    else
      (.error ⟨"Couldn't delete shared memory!"⟩, { s with
        memPtr := .null
        segments := .release s.memData.id false :: s.segments }) := by
  cases hctl : o.shmctl <;> simp [pDetachMemory, pDeleteMemory, h, ho, howner, hctl]

/-- Detaching to the end leaves a sound object without a mapping that has given up nothing more. -/
theorem Sound.detach (hs : s.Sound) {o : DetachOutcome} (ho : s.Detaches o) :
    ∃ u, s.pDetachMemory o = (.ok true, u) ∧ u.Sound ∧ u.memPtr = .null ∧
      u.destroyed = s.destroyed ∧ abandoned u.segments = abandoned s.segments := by
  by_cases hptr : s.memPtr = .null
  · exact ⟨s, pDetachMemory_of_null hptr o, hs, hptr, rfl, rfl⟩
  · obtain ⟨hshmdt, hshmctl⟩ := ho hptr
    cases howner : s.isOwner with
    | false =>
      have hheld := hs.segments
      rw [owned_of_guest howner, add_zero] at hheld
      exact ⟨_, pDetachMemory_of_guest hptr hshmdt howner, hs.of_null rfl rfl hheld, rfl, rfl, rfl⟩
    | true =>
      have hheld := hs.segments
      rw [owned_of_mapped (hs.mapped hptr) howner] at hheld
      have hrun := pDetachMemory_of_owner hptr hshmdt howner
      rw [if_pos (hshmctl howner)] at hrun
      refine ⟨_, hrun, hs.of_null rfl rfl ?_, rfl, rfl, rfl⟩
      rw [held_release_true, abandoned_release_true, hheld, add_comm, Multiset.singleton_add,
        Multiset.erase_cons_head]

/-- Detaching that throws leaves a guest as it is, and an owner with a segment that is not
removed. -/
theorem Sound.detach_fails (hs : s.Sound) {o : DetachOutcome} (ho : ¬ s.Detaches o) :
    ∃ e u, s.pDetachMemory o = (.error e, u) ∧ u.Sound ∧ u.destroyed = s.destroyed ∧
      (s.isOwner = false → u = s) ∧ (s.isOwner = true → held u.segments ≠ 0) := by
  simp only [Detaches, Classical.not_imp] at ho
  obtain ⟨hptr, hfails⟩ := ho
  cases hshmdt : s.shmdt o with
  | false =>
    refine ⟨_, s, pDetachMemory_of_not_shmdt hptr hshmdt, hs, rfl, fun _ => rfl, ?_⟩
    intro howner
    rw [hs.segments, owned_of_mapped (hs.mapped hptr) howner, add_comm]
    exact Multiset.cons_ne_zero
  | true =>
    have howner : s.isOwner = true ∧ o.shmctl = false := by simpa [hshmdt] using hfails
    have hheld := hs.segments
    rw [owned_of_mapped (hs.mapped hptr) howner.1, add_comm, Multiset.singleton_add] at hheld
    have hrun := pDetachMemory_of_owner hptr hshmdt howner.1
    rw [howner.2, if_neg Bool.false_ne_true] at hrun
    refine ⟨_, _, hrun, hs.of_null rfl rfl hheld, rfl, ?_, ?_⟩
    · intro hguest
      cases hguest.symm.trans howner.1
    · intro _
      rw [held_release_false, hheld]
      exact Multiset.cons_ne_zero

/-! ## What attaching does -/

/-- Past `shmget` the call returns true with whatever `shmat` gives: it is never null. -/
theorem shmGet_of_shmget {shmSemaphore : Option ℕ} {create : Bool} {o : AttachOutcome} {id : ℕ}
    (hftok : o.ftok ≠ -1) (hshmget : o.shmget = some id) :
    s.shmGet shmSemaphore create o = if create && shmSemaphore.isNone then none else
      some (.ok true, { s with
        memData := ⟨o.ftok, id⟩
        isOwner := create
        memPtr := shmat o.shmat
        sem := shmSemaphore
        segments := if create then .acquire (id : ℤ) :: s.segments else s.segments
        attachments := shmat o.shmat :: s.attachments }) := by
  have hptr : shmat o.shmat ≠ .null := by cases o.shmat <;> decide
  simp [shmGet, hftok, hshmget, hptr]

/-- Past `ftok` an object without a mapping stays sound as long as `shmat` succeeds. -/
theorem Sound.shmGet (hs : s.Sound) (hptr : s.memPtr = .null) {shmSemaphore : Option ℕ}
    {create : Bool} {o : AttachOutcome} {r : Except StdException Bool}
    (ho : o.ftok ≠ -1 → o.shmget ≠ none → o.shmat = true)
    (h : s.shmGet shmSemaphore create o = some (r, t)) :
    t.Sound ∧ t.destroyed = s.destroyed := by
  have hheld := hs.held_of_null hptr
  by_cases hftok : o.ftok = -1
  · simp only [MemoryObject.shmGet, hftok, if_true, Option.some.injEq, Prod.mk.injEq] at h
    obtain ⟨-, rfl⟩ := h
    exact ⟨hs.of_null rfl hptr hheld, rfl⟩
  · cases hshmget : o.shmget with
    | none =>
      simp only [MemoryObject.shmGet, hftok, if_false, hshmget, Option.some.injEq,
        Prod.mk.injEq] at h
      obtain ⟨-, rfl⟩ := h
      exact ⟨hs.of_null rfl hptr hheld, rfl⟩
    | some id =>
      have hmapped : Ipc.shmat o.shmat = .mapped := by
        rw [ho hftok (by simp [hshmget])]
        rfl
      rw [shmGet_of_shmget hftok hshmget, hmapped] at h
      split at h
      · cases h
      · obtain ⟨-, rfl⟩ := Prod.mk.inj (Option.some.inj h)
        refine ⟨⟨List.forall_mem_cons.mpr ⟨rfl, hs.attached⟩, by simp, ?_, ?_⟩, rfl⟩
        · intro _
          exact Int.natCast_nonneg id
        · cases create with
          | false => simpa [owned] using hheld
          | true => simp [owned, hheld, add_comm, Multiset.singleton_add]

/-- An attachment whose `shmat` fails leaves the object with an invalid address. -/
theorem memPtr_of_shmGet {shmSemaphore : Option ℕ} {create : Bool} {o : AttachOutcome}
    {r : Except StdException Bool} (hftok : o.ftok ≠ -1) (hshmget : o.shmget ≠ none)
    (ho : o.shmat = false) (h : s.shmGet shmSemaphore create o = some (r, t)) :
    t.memPtr = .failed := by
  obtain ⟨id, hid⟩ := Option.ne_none_iff_exists'.mp hshmget
  rw [shmGet_of_shmget hftok hid, ho] at h
  split at h
  · cases h
  · obtain ⟨-, rfl⟩ := Prod.mk.inj (Option.some.inj h)
    rfl

/-- A call of `AttachMemory` gets to `ftok` without a mapping, or ends before. -/
theorem Sound.pAttachMemory_cases (hs : s.Sound) (shmSemaphore : Option ℕ) (create : Bool)
    (o : AttachOutcome) :
    (∃ e u, s.pAttachMemory shmSemaphore create o = some (.error e, u) ∧ u.Sound ∧
      u.destroyed = s.destroyed ∧ ¬ s.ReachesShmat create o) ∨
    ∃ u : MemoryObject, s.pAttachMemory shmSemaphore create o = u.shmGet shmSemaphore create o ∧
      u.Sound ∧ u.memPtr = .null ∧ u.destroyed = s.destroyed ∧
      (s.ReachesShmat create o ↔ o.ftok ≠ -1 ∧ o.shmget ≠ none) := by
  by_cases hfile : (create && !o.fileCreated) = true
  · refine .inl ⟨_, s, by rw [pAttachMemory, if_pos hfile], hs, rfl, ?_⟩
    intro hreach
    simp only [Bool.and_eq_true, Bool.not_eq_true'] at hfile
    cases hfile.2.symm.trans (hreach.1 hfile.1)
  · have hcreated : create = true → o.fileCreated = true := by simpa using hfile
    cases hempty : s.memData.isEmpty with
    | true =>
      have hptr : s.memPtr = .null := by
        by_contra hptr
        have hid := hs.id (hs.mapped hptr)
        rw [SharedMemoryData.isEmpty, decide_eq_true_iff] at hempty
        omega
      refine .inr ⟨s, by simp [pAttachMemory, hfile, hempty], hs, hptr, rfl, ?_⟩
      exact ⟨fun h => h.2.2, fun h => ⟨hcreated, by simp [hempty], h⟩⟩
    | false =>
      by_cases ho : s.Detaches o.detaching
      · obtain ⟨u, hrun, hu, hptr, hdestroyed, -⟩ := hs.detach ho
        refine .inr ⟨u, by simp [pAttachMemory, hfile, hempty, hrun], hu, hptr, hdestroyed, ?_⟩
        exact ⟨fun h => h.2.2, fun h => ⟨hcreated, fun _ => ho, h⟩⟩
      · obtain ⟨e, u, hrun, hu, hdestroyed, -, -⟩ := hs.detach_fails ho
        refine .inl ⟨e, u, by simp [pAttachMemory, hfile, hempty, hrun], hu, hdestroyed, ?_⟩
        intro hreach
        exact ho (hreach.2.1 hempty)

/-! ## Runs -/

/-- The invariant of the runs. -/
def Tidy (s : MemoryObject) : Prop := s.Sound ∧ (s.destroyed = true → held s.segments = 0)

theorem Tidy.cleansUp (h : s.Tidy) : s.CleansUp := ⟨h.1.attached, h.1.getData, h.2⟩

theorem Sound.tidy (hs : s.Sound) (halive : s.destroyed = false) : s.Tidy := by
  refine ⟨hs, ?_⟩
  intro hdestroyed
  cases halive.symm.trans hdestroyed

theorem Sound.destroy (hs : s.Sound) (h : held s.segments = 0) :
    Tidy { s with destroyed := true } := ⟨⟨hs.1, hs.2, hs.3, hs.4⟩, fun _ => h⟩

theorem Tidy.step (hs : s.Tidy) {a : MemoryAction} (ha : s.Cooperates a)
    (h : machine.step s a = some t) : t.Tidy := by
  simp only [machine, MemoryObject.step, Option.ite_none_left_eq_some, Bool.not_eq_true] at h
  obtain ⟨halive, h⟩ := h
  cases a with
  | attach shmSemaphore create o =>
    simp only [Option.map_eq_some_iff, Prod.exists, exists_eq_right] at h
    obtain ⟨r, hrun⟩ := h
    obtain ⟨e, u, hfails, hu, hdestroyed, -⟩ | ⟨u, hgets, hu, hptr, hdestroyed, hreach⟩ :=
      hs.1.pAttachMemory_cases shmSemaphore create o
    · rw [hfails] at hrun
      obtain ⟨-, rfl⟩ := Prod.mk.inj (Option.some.inj hrun)
      exact hu.tidy (hdestroyed.trans halive)
    · rw [hgets] at hrun
      obtain ⟨ht, hkept⟩ := hu.shmGet hptr (fun h₁ h₂ => ha (hreach.mpr ⟨h₁, h₂⟩)) hrun
      exact ht.tidy (hkept.trans (hdestroyed.trans halive))
  | detach o =>
    obtain rfl := Option.some.inj h
    by_cases ho : s.Detaches o
    · obtain ⟨u, hrun, hu, -, hdestroyed, -⟩ := hs.1.detach ho
      rw [hrun]
      exact hu.tidy (hdestroyed.trans halive)
    · obtain ⟨e, u, hrun, hu, hdestroyed, -⟩ := hs.1.detach_fails ho
      rw [hrun]
      exact hu.tidy (hdestroyed.trans halive)
  | destroy o =>
    obtain rfl := Option.some.inj h
    obtain ⟨hdone, hdetaches⟩ := ha
    have hkept := abandoned_eq_zero_iff.mpr hdone
    by_cases ho : s.Detaches o
    · obtain ⟨u, hrun, hu, hptr, -, habandoned⟩ := hs.1.detach ho
      rw [hrun]
      exact hu.destroy (by rw [hu.held_of_null hptr, habandoned, hkept])
    · have howner : s.isOwner = false := by
        by_contra howner
        exact ho (hdetaches (Bool.not_eq_false _ ▸ howner))
      obtain ⟨e, u, hrun, -, -, hguest, -⟩ := hs.1.detach_fails ho
      rw [hrun, hguest howner]
      exact hs.1.destroy (by rw [hs.1.segments, owned_of_guest howner, hkept, add_zero])

theorem not_cleansUp_of_step (hs : s.Tidy) {a : MemoryAction} (ha : ¬ s.Cooperates a)
    (h : machine.step s a = some t) : ¬ t.CleansUp := by
  simp only [machine, MemoryObject.step, Option.ite_none_left_eq_some, Bool.not_eq_true] at h
  obtain ⟨-, h⟩ := h
  intro hclean
  cases a with
  | attach shmSemaphore create o =>
    simp only [Option.map_eq_some_iff, Prod.exists, exists_eq_right] at h
    obtain ⟨r, hrun⟩ := h
    simp only [Cooperates, Classical.not_imp, Bool.not_eq_true] at ha
    obtain ⟨hreach, hfails⟩ := ha
    obtain ⟨e, u, -, -, -, hnot⟩ | ⟨u, hgets, -, -, -, hiff⟩ :=
      hs.1.pAttachMemory_cases shmSemaphore create o
    · exact hnot hreach
    · obtain ⟨hftok, hshmget⟩ := hiff.mp hreach
      rw [hgets] at hrun
      exact hclean.getData (memPtr_of_shmGet hftok hshmget hfails hrun)
  | detach o => exact ha trivial
  | destroy o =>
    obtain rfl := Option.some.inj h
    have hremoved : held (s.pDetachMemory o).2.segments = 0 := hclean.removed rfl
    by_cases ho : s.Detaches o
    · obtain ⟨u, hrun, hu, hptr, -, habandoned⟩ := hs.1.detach ho
      rw [hrun, hu.held_of_null hptr, habandoned, abandoned_eq_zero_iff] at hremoved
      exact ha ⟨hremoved, fun _ => ho⟩
    · obtain ⟨e, u, hrun, -, -, hguest, howner⟩ := hs.1.detach_fails ho
      rw [hrun] at hremoved
      cases hisOwner : s.isOwner with
      | true => exact howner hisOwner hremoved
      | false =>
        rw [hguest hisOwner, hs.1.segments, owned_of_guest hisOwner, add_zero,
          abandoned_eq_zero_iff] at hremoved
        refine ha ⟨hremoved, ?_⟩
        intro howned
        cases hisOwner.symm.trans howned

/-- An object hands out only mapped addresses and removes every segment it has created by the end,
in every run, exactly as long as no `shmat` fails, no `IPC_RMID` has failed before it is destroyed,
and an owner is detached to the end when it is destroyed. -/
theorem cleansUp_iff_cooperates (as : List MemoryAction) :
    machine.Always CleansUp init as ↔ machine.Meets Cooperates init as :=
  Machine.always_iff_meets (fun _ h => h.cleansUp) (fun _ _ _ hs ha h => hs.step ha h)
    (fun _ _ _ hs ha h => not_cleansUp_of_step hs ha h) as (sound_init.tidy rfl)

/-- A segment that is created and cannot be attached, and the destruction of its object. -/
def attachingFails : List MemoryAction :=
  [.attach (some 0) true ⟨true, ⟨true, true⟩, 7, some 5, false⟩, .destroy ⟨true, true⟩]

/-- `AttachMemory` returns true with the pointer `(void*)-1`, and nothing removes segment 5. -/
theorem attachingFails_leaks :
    (pAttachMemory (some 0) true ⟨true, ⟨true, true⟩, 7, some 5, false⟩ init).map
      (fun run => (run.1.toOption, run.2.memPtr)) = some (some true, .failed) ∧
    (machine.exec init attachingFails).map (fun s => (s.destroyed, s.segments)) =
      some (true, [.acquire 5]) ∧
    ¬ machine.Always CleansUp init attachingFails := by
  have hrun : ∃ s, machine.exec init attachingFails = some s ∧ s.memPtr = .failed := ⟨_, rfl, rfl⟩
  refine ⟨rfl, rfl, ?_⟩
  intro halways
  obtain ⟨s, hs, hfailed⟩ := hrun
  exact (halways.of_exec hs).getData hfailed

end MemoryObject
end AmusementPark.Ipc
