import AmusementPark.Ipc.ArrayOwnership
import AmusementPark.Ipc.SharedMemoryOwnership
import AmusementPark.Library.SoleOwner
import AmusementPark.SimulationData

/-! # The life of the processes

`Process::Init` and `Process::Close` as the five `main` functions call them, and
the copies of the manager that `CreateProcess` makes. A process that has not got
the shared memory dies in `pCloseImpl`, where it is used, and so does a manager
without its `m_pauseSemaphore`. A copy that cannot be replaced by a program calls
`exit`, which destroys the objects of the manager.
-/
namespace AmusementPark.Ipc

def SemaphoreArray.getSemaphore (array : SemaphoreArray) (semID : ℕ) : Option ℕ :=
  if array.isEmpty then none else if array.size ≤ semID then none else some semID

end AmusementPark.Ipc

namespace AmusementPark.Main
open Library Ipc

/-- What a process does next: the calls of `Init`, `Run` and `pCloseImpl`, the two destructors of
`Close`, or the `execl` of a copy. `pCloseImpl` knows whether a manager has set `m_pauseSemaphore`,
the destructors know the exit code. The last three are deaths without destructors: a null or
invalid pointer, an exception of a destructor, and all others. -/
inductive LifePoint where
  | absent
  | getArray
  | attach
  | initImpl
  | run
  | closeImpl (pauseSet : Bool)
  | dropMemory (code : ℤ)
  | dropArray (code : ℤ)
  | returned (code : ℤ)
  | execl
  | segfault
  | terminated
  | killed
deriving DecidableEq

/-- How `pInitImpl` ends; that of the manager may throw before or after it sets
`m_pauseSemaphore`. -/
inductive InitEnd where
  | returns
  | throws (pauseSet : Bool)
deriving DecidableEq

/-- A process has its objects still when it is dead, as nothing has destroyed them. A copy of the
manager is `forked` until it runs a program of its own. -/
structure Process where
  create : Bool
  forked : Bool
  point : LifePoint
  semaphoreArray : Option ArrayObject
  sharedMemory : Option MemoryObject

namespace Process

def unborn : Process := ⟨false, false, .absent, none, none⟩

/-- `Init` has made the two objects. -/
def started (create : Bool) : Process :=
  ⟨create, false, .getArray, some .init, some .init⟩

/-- `GetData` gives an address that can be used. -/
def mapped (p : Process) : Bool := p.sharedMemory.any fun m => m.memPtr = .mapped

/-- The process has got the segment and not dropped it. -/
def attached (p : Process) : Bool :=
  match p.point with
  | .initImpl | .run | .dropMemory _ => true
  | .closeImpl _ => p.mapped
  | _ => false

def alive (p : Process) : Bool :=
  match p.point with
  | .absent | .returned _ | .segfault | .terminated | .killed => false
  | _ => true

/-- The array that the process owns, its copies set aside. -/
def ownedArray (p : Process) : Option ℤ :=
  if p.forked then none else p.semaphoreArray.bind fun a =>
    if a.isOwner then some a.array.id else none

def ownedSegment (p : Process) : Option ℤ :=
  if p.forked then none else p.sharedMemory.bind fun m =>
    if m.isOwner then some m.memData.id else none

/-! The calls, with the histories of the arrays and of the segments of the kernel. -/

def getArray (o : GetOutcome) (arrays : List (Use ℤ)) (p : Process) :
    Option (Process × List (Use ℤ)) :=
  p.semaphoreArray.map fun a =>
    match { a with arrays := arrays }.getSemaphoreArray
      (MainSemaphoreArray.count attractionConfig) p.create o with
    | (.ok true, a) => ({ p with point := .attach, semaphoreArray := some a }, a.arrays)
    | (_, a) => ({ p with point := .closeImpl false, semaphoreArray := some a }, a.arrays)

def attach (o : AttachOutcome) (segments : List (Use ℤ)) (p : Process) :
    Option (Process × List (Use ℤ)) :=
  p.semaphoreArray.bind fun a => p.sharedMemory.map fun m =>
    match { m with segments := segments }.pAttachMemory
      (a.array.getSemaphore MainSemaphoreArray.mainSharedMemorySemaphore) p.create o with
    | none => ({ p with point := .segfault }, segments)
    | some (.ok true, m) => ({ p with point := .initImpl, sharedMemory := some m }, m.segments)
    | some (_, m) => ({ p with point := .closeImpl false, sharedMemory := some m }, m.segments)

/-- `pInitImpl` reads the shared memory unless it throws before. -/
def initImpl (o : InitEnd) (p : Process) : Process :=
  match o with
  | .throws pauseSet => { p with point := .closeImpl pauseSet }
  | .returns => if p.mapped then { p with point := .run } else { p with point := .segfault }

/-- Every `pCloseImpl` uses the shared memory, at the latest for its log message, and that of the
manager `m_pauseSemaphore`. -/
def closeImpl (pauseSet throws : Bool) (p : Process) : Process :=
  if p.mapped && (!p.create || pauseSet) then
    { p with point := .dropMemory (if throws then -1 else 0) }
  else { p with point := .segfault }

/-- The destructor of the memory; the process is at `next` after it. `IPC_RMID` succeeds on a
segment that is there. -/
def dropMemory (next : LifePoint) (segments : List (Use ℤ)) (p : Process) :
    Process × List (Use ℤ) :=
  match p.sharedMemory with
  | none => ({ p with point := next }, segments)
  | some m =>
    match { m with segments := segments }.pDetachMemory
      ⟨true, decide (m.memData.id ∈ held segments)⟩ with
    | (.ok _, m) => ({ p with point := next, sharedMemory := none }, m.segments)
    | (.error _, m) => ({ p with point := .terminated, sharedMemory := some m }, m.segments)

def dropArray (next : LifePoint) (arrays : List (Use ℤ)) (p : Process) :
    Process × List (Use ℤ) :=
  match p.semaphoreArray with
  | none => ({ p with point := next }, arrays)
  | some a =>
    match { a with arrays := arrays }.deleteSemaphoreArray false with
    | (.ok _, a) => ({ p with point := next, semaphoreArray := none }, a.arrays)
    | (.error _, a) => ({ p with point := .terminated, semaphoreArray := some a }, a.arrays)

end Process

/-- The processes and what the kernel has under the two keys of the park. -/
structure ParkProcesses (ι : Type) where
  procs : ι → Process
  arrays : List (Use ℤ)
  segments : List (Use ℤ)

/-- `start` is a program started by hand, `exec` the `execl` of a copy, which finds the program or
not. A process can be killed at any time. -/
inductive LifeAction (ι : Type) where
  | start (i : ι) (create : Bool)
  | getArray (i : ι) (o : GetOutcome)
  | attach (i : ι) (o : AttachOutcome)
  | initImpl (i : ι) (o : InitEnd)
  | createProcess (i j : ι)
  | exec (j : ι) (found : Bool)
  | run (i : ι)
  | closeImpl (i : ι) (throws : Bool)
  | drop (i : ι)
  | kill (i : ι)

/-- What `semget` and `shmget` may return: with `IPC_EXCL` a new object only where there is none,
and otherwise the object that is there. -/
def allowed (uses : List (Use ℤ)) (create : Bool) : Option ℕ → Bool
  | none => create || decide (held uses = 0)
  | some id => if create then decide (held uses = 0) else decide ((id : ℤ) ∈ held uses)

namespace ParkProcesses
variable {ι : Type} [DecidableEq ι]

def start : ParkProcesses ι := ⟨fun _ => .unborn, [], []⟩

def setProc (s : ParkProcesses ι) (i : ι) (p : Process) : ParkProcesses ι :=
  { s with procs := Function.update s.procs i p }

def setArrays (s : ParkProcesses ι) (i : ι) (r : Process × List (Use ℤ)) : ParkProcesses ι :=
  { s with procs := Function.update s.procs i r.1, arrays := r.2 }

def setSegments (s : ParkProcesses ι) (i : ι) (r : Process × List (Use ℤ)) : ParkProcesses ι :=
  { s with procs := Function.update s.procs i r.1, segments := r.2 }

/-- The manager creates processes in `pInitImpl`, after it has used the memory, and in `Run`. The
`exit` of a copy destroys its objects in the order in which `Close` does. -/
def step (s : ParkProcesses ι) : LifeAction ι → Option (ParkProcesses ι)
  | .start i create =>
    if (s.procs i).point = .absent then some (s.setProc i (.started create)) else none
  | .getArray i o =>
    if (s.procs i).point = .getArray ∧ allowed s.arrays (s.procs i).create o.semget = true then
      ((s.procs i).getArray o s.arrays).map (s.setArrays i)
    else none
  | .attach i o =>
    if (s.procs i).point = .attach ∧ allowed s.segments (s.procs i).create o.shmget = true then
      ((s.procs i).attach o s.segments).map (s.setSegments i)
    else none
  | .initImpl i o =>
    if (s.procs i).point = .initImpl then some (s.setProc i ((s.procs i).initImpl o)) else none
  | .createProcess i j =>
    if ((s.procs i).point = .initImpl ∨ (s.procs i).point = .run) ∧ (s.procs i).create = true ∧
        (s.procs i).mapped = true ∧ (s.procs j).point = .absent then
      some (s.setProc j { s.procs i with forked := true, point := .execl })
    else none
  | .exec j found =>
    if (s.procs j).point = .execl then
      if found then some (s.setProc j (.started false))
      else some (s.setSegments j ((s.procs j).dropMemory (.dropArray (-1)) s.segments))
    else none
  | .run i =>
    if (s.procs i).point = .run then some (s.setProc i { s.procs i with point := .closeImpl true })
    else none
  | .closeImpl i throws =>
    match (s.procs i).point with
    | .closeImpl pauseSet => some (s.setProc i ((s.procs i).closeImpl pauseSet throws))
    | _ => none
  | .drop i =>
    match (s.procs i).point with
    | .dropMemory code =>
      some (s.setSegments i ((s.procs i).dropMemory (.dropArray code) s.segments))
    | .dropArray code => some (s.setArrays i ((s.procs i).dropArray (.returned code) s.arrays))
    | _ => none
  | .kill i =>
    if (s.procs i).alive then some (s.setProc i { s.procs i with point := .killed }) else none

def machine : Machine (ParkProcesses ι) (LifeAction ι) := ⟨step⟩

/-! ## What is asked of the processes -/

/-- No copy of the manager fails in `execl`. -/
def ExecFinds (_ : ParkProcesses ι) : LifeAction ι → Prop
  | .exec _ found => found = true
  | _ => True

/-- The array and the segment of the park are there as long as the process that has created them,
from `Init` to the destructors of its own `Close`, the segment not longer than the array, and they
are removed once. Nobody else creates or removes any, and no destructor throws. -/
structure IpcKept (s : ParkProcesses ι) : Prop where
  arrays : SoleOwner (fun i => (s.procs i).ownedArray) s.arrays
  segments : SoleOwner (fun i => (s.procs i).ownedSegment) s.segments
  nested : ∀ i, (s.procs i).ownedSegment ≠ none → (s.procs i).ownedArray ≠ none
  running : ∀ i, (s.procs i).create = true → (s.procs i).attached = true →
    (s.procs i).ownedSegment ≠ none
  returned : ∀ i code, (s.procs i).point = .returned code → (s.procs i).ownedArray = none
  destructors : ∀ i, (s.procs i).point ≠ .terminated

end ParkProcesses

/-! ## What holds of a process at each point -/

namespace Process

/-- The objects of a process that has got through the two calls of `Init`. -/
def Attached (p : Process) : Prop :=
  ∃ a m, p.semaphoreArray = some a ∧ p.sharedMemory = some m ∧
    a.isOwner = p.create ∧ m.isOwner = p.create ∧ m.memPtr ≠ .null

def StandsAt (p : Process) : LifePoint → Prop
  | .absent => p.semaphoreArray = none ∧ p.sharedMemory = none
  | .getArray => p.forked = false ∧ p.semaphoreArray = some .init ∧ p.sharedMemory = some .init
  | .attach => p.forked = false ∧ p.sharedMemory = some .init ∧
    ∃ a, p.semaphoreArray = some a ∧ a.isOwner = p.create ∧
      (a.array.getSemaphore MainSemaphoreArray.mainSharedMemorySemaphore).isSome
  | .initImpl | .run => p.forked = false ∧ p.Attached
  | .closeImpl _ => p.forked = false ∧ (p.mapped = true → p.Attached)
  | .dropMemory _ => p.forked = false ∧ p.Attached ∧ p.mapped = true
  | .dropArray _ => p.forked = false ∧ p.sharedMemory = none
  | .returned _ => p.semaphoreArray = none ∧ p.sharedMemory = none
  | .execl => p.forked = true ∧ p.create = true ∧ p.Attached ∧ p.mapped = true
  | .segfault | .killed => True
  | .terminated => False

/-- The owner of a segment owns an array, and who owns an array has not removed it. -/
structure Shaped (p : Process) : Prop where
  stands : p.StandsAt p.point
  nested : ∀ m ∈ p.sharedMemory, m.isOwner = true → ∃ a ∈ p.semaphoreArray, a.isOwner = true
  owner : ∀ a ∈ p.semaphoreArray, a.isOwner = true →
    a.removed = false ∧ 0 ≤ a.array.id ∧ a.array.size ≠ 0

variable {p q : Process}

theorem shaped_unborn : unborn.Shaped := ⟨⟨rfl, rfl⟩, by simp [unborn], by simp [unborn]⟩

theorem shaped_started (create : Bool) : (started create).Shaped :=
  ⟨⟨rfl, rfl, rfl⟩, by simp [started, MemoryObject.init], by simp [started, ArrayObject.init]⟩

theorem eq_started (hpoint : p.point = .getArray) (hstands : p.StandsAt .getArray) :
    p = started p.create := by
  obtain ⟨hforked, harray, hmemory⟩ := hstands
  rw [started, ← hforked, ← hpoint, ← harray, ← hmemory]

/-- A process that has got the segment has been through the two calls of `Init`. -/
theorem Shaped.of_attached (h : p.Shaped) (hattached : p.attached = true) :
    p.forked = false ∧ p.Attached := by
  have hstands := h.stands
  cases hpoint : p.point with
  | initImpl | run =>
    rw [hpoint] at hstands
    exact hstands
  | dropMemory code =>
    rw [hpoint] at hstands
    obtain ⟨hforked, hobjects, -⟩ := hstands
    exact ⟨hforked, hobjects⟩
  | closeImpl pauseSet =>
    rw [hpoint] at hstands
    exact hstands.imp_right fun hobjects => hobjects (by simpa [attached, hpoint] using hattached)
  | _ => simp [attached, hpoint] at hattached

theorem ownedArray_of_forked (h : p.forked = true) : p.ownedArray = none := by simp [ownedArray, h]

theorem ownedSegment_of_forked (h : p.forked = true) : p.ownedSegment = none := by
  simp [ownedSegment, h]

theorem ownedArray_of_none (h : p.semaphoreArray = none) : p.ownedArray = none := by
  simp [ownedArray, h]

theorem ownedSegment_of_none (h : p.sharedMemory = none) : p.ownedSegment = none := by
  simp [ownedSegment, h]

theorem ownedArray_eq (h : p.forked = false) {a : ArrayObject} (ha : p.semaphoreArray = some a) :
    p.ownedArray = if a.isOwner then some a.array.id else none := by
  simp [ownedArray, h, ha]

theorem ownedSegment_eq (h : p.forked = false) {m : MemoryObject} (hm : p.sharedMemory = some m) :
    p.ownedSegment = if m.isOwner then some m.memData.id else none := by
  simp [ownedSegment, h, hm]

theorem ownedArray_started (create : Bool) : (started create).ownedArray = none := rfl

theorem ownedSegment_started (create : Bool) : (started create).ownedSegment = none := rfl

/-- Who owns a segment owns an array. -/
theorem Shaped.ownedArray_ne_none (h : p.Shaped) (howned : p.ownedSegment ≠ none) :
    p.ownedArray ≠ none := by
  cases hforked : p.forked with
  | true => exact absurd (ownedSegment_of_forked hforked) howned
  | false =>
    cases hm : p.sharedMemory with
    | none => simp [ownedSegment, hm] at howned
    | some m =>
      rw [ownedSegment_eq hforked hm] at howned
      have hisOwner : m.isOwner = true := by
        by_contra hnot
        exact howned (if_neg hnot)
      obtain ⟨a, ha, haOwner⟩ := h.nested m hm hisOwner
      rw [ownedArray_eq hforked ha, if_pos haOwner]
      exact Option.some_ne_none _

/-- A process that only goes on to another point keeps its objects. -/
theorem Shaped.moved (h : p.Shaped) {point : LifePoint} (hstands : p.StandsAt point) :
    { p with point := point }.Shaped := by
  refine ⟨?_, h.nested, h.owner⟩
  cases point <;> exact hstands

/-! ## What the calls do -/

/-- `GetSemaphoreArray` on a new object throws and leaves it without an array, or gets one. -/
theorem getSemaphoreArray_init {nSems : ℕ} (hn : nSems ≠ 0) (create : Bool) (o : GetOutcome)
    (arrays : List (Use ℤ)) :
    (∃ e a, { ArrayObject.init with arrays := arrays }.getSemaphoreArray nSems create o =
      (.error e, a) ∧ a.isOwner = false ∧ a.arrays = arrays) ∨
    ∃ id, o.semget = some id ∧
      { ArrayObject.init with arrays := arrays }.getSemaphoreArray nSems create o =
        (.ok true, ⟨create, ⟨o.ftok, id, nSems⟩,
          if create then .acquire (id : ℤ) :: arrays else arrays, false, false⟩) := by
  unfold ArrayObject.getSemaphoreArray
  rw [if_neg hn]
  split
  · exact .inl ⟨_, _, rfl, rfl, rfl⟩
  · rw [if_neg (by simp [ArrayObject.init])]
    unfold ArrayObject.semGet
    split
    · exact .inl ⟨_, _, rfl, rfl, rfl⟩
    · cases hget : o.semget with
      | none => exact .inl ⟨_, _, rfl, rfl, rfl⟩
      | some id => exact .inr ⟨id, rfl, rfl⟩

/-- `AttachMemory` on a new object, with a semaphore, throws and leaves it without a segment, or
gets one. -/
theorem pAttachMemory_init {shmSemaphore : Option ℕ} (hsem : shmSemaphore.isSome) (create : Bool)
    (o : AttachOutcome) (segments : List (Use ℤ)) :
    (∃ e m, { MemoryObject.init with segments := segments }.pAttachMemory shmSemaphore create o =
      some (.error e, m) ∧ m.isOwner = false ∧ m.memPtr = .null ∧ m.segments = segments) ∨
    ∃ id m, o.shmget = some id ∧
      { MemoryObject.init with segments := segments }.pAttachMemory shmSemaphore create o =
        some (.ok true, m) ∧ m.isOwner = create ∧ m.memPtr ≠ .null ∧ m.memData.id = (id : ℤ) ∧
      m.segments = if create then .acquire (id : ℤ) :: segments else segments := by
  have hempty : { MemoryObject.init with segments := segments }.memData.isEmpty = true := rfl
  by_cases hfile : (create && !o.fileCreated) = true
  · exact .inl ⟨_, _, by rw [MemoryObject.pAttachMemory, if_pos hfile], rfl, rfl, rfl⟩
  · rw [MemoryObject.pAttachMemory, if_neg hfile, hempty, if_neg (by decide)]
    by_cases hftok : o.ftok = -1
    · exact .inl ⟨_, _, by rw [MemoryObject.shmGet, if_pos hftok], rfl, rfl, rfl⟩
    · cases hget : o.shmget with
      | none =>
        exact .inl ⟨_, _, by rw [MemoryObject.shmGet, if_neg hftok, hget], rfl, rfl, rfl⟩
      | some id =>
        have hnot : ¬ (create && shmSemaphore.isNone) = true := by
          rw [Option.isNone_eq_false_iff.mpr hsem, Bool.and_false]
          decide
        have hptr : shmat o.shmat ≠ .null := by cases o.shmat <;> decide
        have hrun : { MemoryObject.init with segments := segments }.shmGet
            shmSemaphore create o = _ := MemoryObject.shmGet_of_shmget hftok hget
        rw [if_neg hnot] at hrun
        exact .inr ⟨id, _, rfl, hrun, rfl, hptr, rfl, rfl⟩

variable {ι : Type} [DecidableEq ι] {owned : ι → Option ℤ} {arrays segments : List (Use ℤ)}

theorem getArray_started (h : SoleOwner owned arrays) {i : ι} (hi : owned i = none) {create : Bool}
    {o : GetOutcome} (ho : allowed arrays create o.semget = true) :
    ∃ r, (started create).getArray o arrays = some r ∧ r.1.Shaped ∧ r.1.ownedSegment = none ∧
      SoleOwner (Function.update owned i r.1.ownedArray) r.2 := by
  have hcount : MainSemaphoreArray.count attractionConfig ≠ 0 := by decide
  obtain ⟨e, a, hrun, howner, harrays⟩ | ⟨id, hget, hrun⟩ :=
    getSemaphoreArray_init hcount create o arrays
  · refine ⟨({ started create with point := .closeImpl false, semaphoreArray := some a }, arrays),
      by simp [getArray, started, hrun, harrays], ⟨?_, ?_, ?_⟩, rfl, ?_⟩
    · exact ⟨rfl, fun hmapped => absurd hmapped (by simp [mapped, started, MemoryObject.init])⟩
    · simp [started, MemoryObject.init]
    · simp [howner]
    · exact h.unchanged (by simp [hi, ownedArray, started, howner])
  · set a : ArrayObject := ⟨create, ⟨o.ftok, id, MainSemaphoreArray.count attractionConfig⟩,
      if create then .acquire (id : ℤ) :: arrays else arrays, false, false⟩ with ha
    refine ⟨({ started create with point := .attach, semaphoreArray := some a }, a.arrays),
      by simp [getArray, started, hrun], ⟨?_, ?_, ?_⟩, rfl, ?_⟩
    · refine ⟨rfl, rfl, a, rfl, rfl, ?_⟩
      have hempty : a.array.isEmpty = false := by simp [ha, SemaphoreArray.isEmpty]
      have hsize : ¬ MainSemaphoreArray.count attractionConfig ≤
          MainSemaphoreArray.mainSharedMemorySemaphore := by decide
      rw [SemaphoreArray.getSemaphore, hempty, if_neg (by decide), if_neg hsize]
      rfl
    · simp [started, MemoryObject.init]
    · intro b hb _
      obtain rfl := Option.some.inj hb
      exact ⟨rfl, Int.natCast_nonneg id, hcount⟩
    · rw [hget] at ho
      cases create with
      | false => exact h.unchanged hi
      | true => exact h.acquire (by simpa [allowed] using ho) i id

theorem attach_of_array {p : Process} (hp : p.Shaped) (hpoint : p.point = .attach)
    (h : SoleOwner owned segments) {i : ι} (hi : owned i = none) {o : AttachOutcome}
    (ho : allowed segments p.create o.shmget = true) :
    ∃ r, p.attach o segments = some r ∧ r.1.Shaped ∧ r.1.ownedArray = p.ownedArray ∧
      SoleOwner (Function.update owned i r.1.ownedSegment) r.2 := by
  obtain ⟨hforked, hm, a, ha, howner, hsem⟩ := hpoint ▸ hp.stands
  obtain ⟨e, m, hrun, hguest, hnull, hsegments⟩ |
      ⟨id, m, hget, hrun, hmowner, hptr, hid, hsegments⟩ :=
    pAttachMemory_init hsem p.create o segments
  · refine ⟨({ p with point := .closeImpl false, sharedMemory := some m }, segments),
      by simp [attach, ha, hm, hrun, hsegments], ⟨?_, ?_, hp.owner⟩, rfl, ?_⟩
    · exact ⟨hforked, fun hmapped => absurd hmapped (by simp [mapped, hnull])⟩
    · simp [hguest]
    · exact h.unchanged (by simp [hi, ownedSegment, hguest])
  · refine ⟨({ p with point := .initImpl, sharedMemory := some m }, m.segments),
      by simp [attach, ha, hm, hrun], ⟨?_, ?_, hp.owner⟩, rfl, ?_⟩
    · exact ⟨hforked, a, m, ha, rfl, howner, hmowner, hptr⟩
    · intro n hn hisOwner
      obtain rfl := Option.some.inj hn
      exact ⟨a, ha, by rw [howner, ← hmowner, hisOwner]⟩
    · rw [hget] at ho
      rw [hsegments, ownedSegment_eq (p := { p with point := .initImpl, sharedMemory := some m })
        hforked rfl, hmowner, hid]
      cases hcreate : p.create with
      | false => exact h.unchanged hi
      | true =>
        rw [hcreate] at ho
        exact h.acquire (by simpa [allowed] using ho) i id

/-- The destructor of the memory lets an owner remove its segment. -/
theorem dropMemory_of_attached {p : Process} (hforked : p.forked = false) {m : MemoryObject}
    (hm : p.sharedMemory = some m) (hmapped : m.memPtr = .mapped)
    (h : SoleOwner owned segments) {i : ι} (hi : owned i = p.ownedSegment) (next : LifePoint) :
    ∃ uses, p.dropMemory next segments = ({ p with point := next, sharedMemory := none }, uses) ∧
      SoleOwner (Function.update owned i none) uses := by
  have hptr : { m with segments := segments }.memPtr ≠ .null := by simp [hmapped]
  have hshmdt (done : Bool) : { m with segments := segments }.shmdt ⟨true, done⟩ = true := by
    simp [MemoryObject.shmdt, hmapped]
  rw [ownedSegment_eq hforked hm] at hi
  cases howner : m.isOwner with
  | false =>
    rw [howner] at hi
    refine ⟨segments, ?_, h.unchanged hi⟩
    simp only [dropMemory, hm]
    rw [MemoryObject.pDetachMemory_of_guest hptr (hshmdt _) howner]
  | true =>
    rw [howner, if_pos rfl] at hi
    have hheld := h.holds i _ hi
    have hthere : decide (m.memData.id ∈ held segments) = true := by simp [hheld]
    refine ⟨.release m.memData.id true :: segments, ?_, h.release hi⟩
    simp only [dropMemory, hm, hthere]
    rw [MemoryObject.pDetachMemory_of_owner hptr (hshmdt _) howner, if_pos rfl]

/-- The destructor of the memory of a copy takes the segment that the manager owns, or fails. -/
theorem dropMemory_of_forked {p : Process} {m : MemoryObject} (hm : p.sharedMemory = some m)
    (hmapped : m.memPtr = .mapped) (howner : m.isOwner = true) (next : LifePoint)
    (segments : List (Use ℤ)) :
    ∃ q done, p.dropMemory next segments = (q, .release m.memData.id done :: segments) ∧
      q.forked = p.forked := by
  have hptr : { m with segments := segments }.memPtr ≠ .null := by simp [hmapped]
  have hshmdt (done : Bool) : { m with segments := segments }.shmdt ⟨true, done⟩ = true := by
    simp [MemoryObject.shmdt, hmapped]
  simp only [dropMemory, hm]
  rw [MemoryObject.pDetachMemory_of_owner hptr (hshmdt _) howner]
  cases decide (m.memData.id ∈ held segments) with
  | false => exact ⟨_, false, rfl, rfl⟩
  | true => exact ⟨_, true, rfl, rfl⟩

/-- The destructor of the array lets an owner remove it. -/
theorem dropArray_of_shaped {p : Process} (hp : p.Shaped) (hforked : p.forked = false)
    (h : SoleOwner owned arrays) {i : ι} (hi : owned i = p.ownedArray) (next : LifePoint) :
    ∃ uses, p.dropArray next arrays = ({ p with point := next, semaphoreArray := none }, uses) ∧
      SoleOwner (Function.update owned i none) uses := by
  cases ha : p.semaphoreArray with
  | none =>
    have hnone : owned i = none := by simp [hi, ownedArray, ha]
    refine ⟨arrays, ?_, h.unchanged hnone⟩
    cases p
    simp_all [dropArray]
  | some a =>
    rw [ownedArray_eq hforked ha] at hi
    cases howner : a.isOwner with
    | false =>
      rw [howner] at hi
      refine ⟨arrays, ?_, h.unchanged hi⟩
      simp only [dropArray, ha]
      rw [ArrayObject.deleteSemaphoreArray_of_not (by simp [howner])]
    | true =>
      rw [howner, if_pos rfl] at hi
      obtain ⟨hremoved, hid, hsize⟩ := hp.owner a ha howner
      have hshape : ArrayObject.Owner { a with arrays := arrays } :=
        ⟨hremoved, howner, hid, hsize, h.holds i _ hi⟩
      refine ⟨.release a.array.id true :: arrays, ?_, h.release hi⟩
      simp only [dropArray, ha]
      rw [ArrayObject.deleteSemaphoreArray_of_owner hshape]

end Process

/-! ## Runs -/

namespace ParkProcesses
variable {ι : Type} [DecidableEq ι] {s t : ParkProcesses ι} {i : ι}

/-- The invariant of the runs. -/
structure Coordinated (s : ParkProcesses ι) : Prop where
  arrays : SoleOwner (fun i => (s.procs i).ownedArray) s.arrays
  segments : SoleOwner (fun i => (s.procs i).ownedSegment) s.segments
  shaped : ∀ i, (s.procs i).Shaped

omit [DecidableEq ι] in
theorem coordinated_start : (start : ParkProcesses ι).Coordinated :=
  ⟨.empty, .empty, fun _ => Process.shaped_unborn⟩

omit [DecidableEq ι] in
theorem Coordinated.stands (hs : s.Coordinated) {point : LifePoint}
    (hpoint : (s.procs i).point = point) : (s.procs i).StandsAt point :=
  hpoint ▸ (hs.shaped i).stands

omit [DecidableEq ι] in
theorem Coordinated.kept (hs : s.Coordinated) : s.IpcKept := by
  refine ⟨hs.arrays, hs.segments, fun i => (hs.shaped i).ownedArray_ne_none, ?_, ?_, ?_⟩
  · intro i hcreate hattached
    obtain ⟨hforked, a, m, -, hm, -, howner, -⟩ := (hs.shaped i).of_attached hattached
    rw [Process.ownedSegment_eq hforked hm, howner, hcreate, if_pos rfl]
    exact Option.some_ne_none _
  · intro i code hpoint
    exact Process.ownedArray_of_none (hs.stands hpoint).1
  · intro i hpoint
    exact hs.stands hpoint

theorem Coordinated.set (hs : s.Coordinated) {p : Process} (hp : p.Shaped)
    {arrays segments : List (Use ℤ)}
    (harrays : SoleOwner (Function.update (fun j => (s.procs j).ownedArray) i p.ownedArray) arrays)
    (hsegments : SoleOwner (Function.update (fun j => (s.procs j).ownedSegment) i p.ownedSegment)
      segments) : Coordinated ⟨Function.update s.procs i p, arrays, segments⟩ := by
  refine ⟨?_, ?_, ?_⟩
  · change SoleOwner (Process.ownedArray ∘ Function.update s.procs i p) arrays
    rw [Function.comp_update]
    exact harrays
  · change SoleOwner (Process.ownedSegment ∘ Function.update s.procs i p) segments
    rw [Function.comp_update]
    exact hsegments
  · intro j
    change (Function.update s.procs i p j).Shaped
    by_cases hj : j = i
    · rw [hj, Function.update_self]
      exact hp
    · rw [Function.update_of_ne hj]
      exact hs.shaped j

/-- A process that goes on to another point and keeps its objects. -/
theorem Coordinated.goOn (hs : s.Coordinated) {point : LifePoint}
    (hstands : (s.procs i).StandsAt point) :
    (s.setProc i { s.procs i with point := point }).Coordinated :=
  hs.set ((hs.shaped i).moved hstands) (hs.arrays.unchanged rfl) (hs.segments.unchanged rfl)

/-- A process that owns nothing becomes another one that owns nothing. -/
theorem Coordinated.replace (hs : s.Coordinated) {p : Process} (hp : p.Shaped)
    (harray : (s.procs i).ownedArray = none) (hsegment : (s.procs i).ownedSegment = none)
    (hp₁ : p.ownedArray = none) (hp₂ : p.ownedSegment = none) : (s.setProc i p).Coordinated :=
  hs.set hp (hs.arrays.unchanged (by rw [harray, hp₁]))
    (hs.segments.unchanged (by rw [hsegment, hp₂]))

omit [DecidableEq ι] in
theorem Coordinated.unborn (hs : s.Coordinated) (hpoint : (s.procs i).point = .absent) :
    (s.procs i).ownedArray = none ∧ (s.procs i).ownedSegment = none := by
  obtain ⟨harray, hmemory⟩ := hs.stands hpoint
  exact ⟨Process.ownedArray_of_none harray, Process.ownedSegment_of_none hmemory⟩

/-- As long as the copies find their programs, every step keeps the invariant. -/
theorem Coordinated.step (hs : s.Coordinated) {a : LifeAction ι} (ha : s.ExecFinds a)
    (h : machine.step s a = some t) : t.Coordinated := by
  change ParkProcesses.step s a = some t at h
  cases a with
  | start i create =>
    simp only [ParkProcesses.step, Option.ite_none_right_eq_some, Option.some.injEq] at h
    obtain ⟨hpoint, rfl⟩ := h
    obtain ⟨harray, hsegment⟩ := hs.unborn hpoint
    exact hs.replace (Process.shaped_started create) harray hsegment rfl rfl
  | getArray i o =>
    simp only [ParkProcesses.step, Option.ite_none_right_eq_some, Option.map_eq_some_iff] at h
    obtain ⟨⟨hpoint, ho⟩, r, hr, rfl⟩ := h
    have hstarted : s.procs i = .started (s.procs i).create :=
      Process.eq_started hpoint (hs.stands hpoint)
    rw [hstarted] at hr
    have hsegment : (s.procs i).ownedSegment = none := by
      rw [hstarted, Process.ownedSegment_started]
    obtain ⟨r', hr', hshaped, hnone, howner⟩ := Process.getArray_started hs.arrays
      (by rw [hstarted, Process.ownedArray_started]) ho
    obtain rfl := Option.some.inj (hr.symm.trans hr')
    exact hs.set hshaped howner (hs.segments.unchanged (by rw [hsegment, hnone]))
  | attach i o =>
    simp only [ParkProcesses.step, Option.ite_none_right_eq_some, Option.map_eq_some_iff] at h
    obtain ⟨⟨hpoint, ho⟩, r, hr, rfl⟩ := h
    obtain ⟨hforked, hmemory, -⟩ := hs.stands hpoint
    have hsegment : (s.procs i).ownedSegment = none := by
      rw [Process.ownedSegment_eq hforked hmemory]
      rfl
    obtain ⟨r', hr', hshaped, hsame, howner⟩ :=
      Process.attach_of_array (hs.shaped i) hpoint hs.segments hsegment ho
    obtain rfl := Option.some.inj (hr.symm.trans hr')
    exact hs.set hshaped (hs.arrays.unchanged hsame.symm) howner
  | initImpl i o =>
    simp only [ParkProcesses.step, Option.ite_none_right_eq_some, Option.some.injEq] at h
    obtain ⟨hpoint, rfl⟩ := h
    obtain ⟨hforked, hattached⟩ := hs.stands hpoint
    cases o with
    | throws pauseSet => exact hs.goOn ⟨hforked, fun _ => hattached⟩
    | returns =>
      unfold Process.initImpl
      dsimp only
      split
      · exact hs.goOn ⟨hforked, hattached⟩
      · exact hs.goOn trivial
  | createProcess i j =>
    simp only [ParkProcesses.step, Option.ite_none_right_eq_some, Option.some.injEq] at h
    obtain ⟨⟨hpoint, hcreate, hmapped, habsent⟩, rfl⟩ := h
    have hattached : (s.procs i).Attached := by
      obtain hpoint | hpoint := hpoint
      · exact (hs.stands hpoint).2
      · exact (hs.stands hpoint).2
    obtain ⟨harray, hsegment⟩ := hs.unborn habsent
    refine hs.replace ⟨⟨rfl, hcreate, hattached, hmapped⟩, ?_, (hs.shaped i).owner⟩ harray hsegment
      (Process.ownedArray_of_forked rfl) (Process.ownedSegment_of_forked rfl)
    exact (hs.shaped i).nested
  | exec j found =>
    obtain rfl : found = true := ha
    simp only [ParkProcesses.step, Option.ite_none_right_eq_some, if_true, Option.some.injEq] at h
    obtain ⟨hpoint, rfl⟩ := h
    have hforked := (hs.stands hpoint).1
    exact hs.replace (Process.shaped_started false) (Process.ownedArray_of_forked hforked)
      (Process.ownedSegment_of_forked hforked) rfl rfl
  | run i =>
    simp only [ParkProcesses.step, Option.ite_none_right_eq_some, Option.some.injEq] at h
    obtain ⟨hpoint, rfl⟩ := h
    obtain ⟨hforked, hattached⟩ := hs.stands hpoint
    exact hs.goOn ⟨hforked, fun _ => hattached⟩
  | closeImpl i throws =>
    simp only [ParkProcesses.step] at h
    split at h
    next pauseSet hpoint =>
      obtain rfl := Option.some.inj h
      obtain ⟨hforked, hattached⟩ := hs.stands hpoint
      unfold Process.closeImpl
      split
      next hready =>
        have hmapped := (Bool.and_eq_true_iff.mp hready).1
        exact hs.goOn ⟨hforked, hattached hmapped, hmapped⟩
      next => exact hs.goOn trivial
    · cases h
  | drop i =>
    simp only [ParkProcesses.step] at h
    split at h
    next code hpoint =>
      obtain rfl := Option.some.inj h
      obtain ⟨hforked, ⟨a, m, ha, hm, howner, hmowner, hptr⟩, hmapped⟩ := hs.stands hpoint
      have hmem : m.memPtr = .mapped := by simpa [Process.mapped, hm] using hmapped
      obtain ⟨uses, hrun, hsole⟩ :=
        Process.dropMemory_of_attached hforked hm hmem hs.segments rfl (.dropArray code)
      rw [hrun]
      have hshaped : Process.Shaped { s.procs i with
          point := .dropArray code
          sharedMemory := none } := ⟨⟨hforked, rfl⟩, by simp, (hs.shaped i).owner⟩
      refine hs.set hshaped (hs.arrays.unchanged rfl) ?_
      rw [Process.ownedSegment_of_none rfl]
      exact hsole
    next code hpoint =>
      obtain rfl := Option.some.inj h
      obtain ⟨hforked, hm⟩ := hs.stands hpoint
      obtain ⟨uses, hrun, hsole⟩ :=
        Process.dropArray_of_shaped (hs.shaped i) hforked hs.arrays rfl (.returned code)
      rw [hrun]
      have hshaped : Process.Shaped { s.procs i with
          point := .returned code
          semaphoreArray := none } := ⟨⟨rfl, hm⟩, by simp [hm], by simp⟩
      refine hs.set hshaped ?_ (hs.segments.unchanged rfl)
      rw [Process.ownedArray_of_none rfl]
      exact hsole
    · cases h
  | kill i =>
    simp only [ParkProcesses.step, Option.ite_none_right_eq_some, Option.some.injEq] at h
    obtain ⟨-, rfl⟩ := h
    exact hs.goOn trivial

/-- The `exit` of a copy removes the segment of the manager. -/
theorem not_kept_of_exit (hs : s.Coordinated) {a : LifeAction ι} (ha : ¬ s.ExecFinds a)
    (h : machine.step s a = some t) : ¬ t.IpcKept := by
  change ParkProcesses.step s a = some t at h
  cases a with
  | exec j found =>
    obtain rfl : found = false := Bool.not_eq_true _ ▸ ha
    simp only [ParkProcesses.step, Option.ite_none_right_eq_some, Bool.false_eq_true, if_false,
      Option.some.injEq] at h
    obtain ⟨hpoint, rfl⟩ := h
    obtain ⟨hforked, hcreate, ⟨a, m, ha, hm, howner, hmowner, hptr⟩, hmapped⟩ := hs.stands hpoint
    have hmem : m.memPtr = .mapped := by simpa [Process.mapped, hm] using hmapped
    obtain ⟨p, done, hrun, hsame⟩ := Process.dropMemory_of_forked hm hmem
      (hmowner.trans hcreate) (.dropArray (-1)) s.segments
    have hbefore : (s.procs j).ownedSegment = none := Process.ownedSegment_of_forked hforked
    have hafter : p.ownedSegment = none := Process.ownedSegment_of_forked (hsame.trans hforked)
    -- the release has changed nothing in what the processes own
    have hview : Process.ownedSegment ∘ Function.update s.procs j p =
        fun i => (s.procs i).ownedSegment := by
      rw [Function.comp_update, hafter, ← hbefore]
      exact Function.update_eq_self j _
    intro hkept
    have hsegments := hkept.segments
    rw [hrun] at hsegments
    change SoleOwner (Process.ownedSegment ∘ Function.update s.procs j p) _ at hsegments
    rw [hview] at hsegments
    exact hs.segments.not_release _ _ hsegments
  | _ => exact absurd trivial ha

/-- The objects of the kernel live as long as their manager, in every run of any number of managers
and children, exactly as long as every copy of a manager finds the program it is to become. -/
theorem ipcKept_iff_execFinds (as : List (LifeAction ι)) :
    machine.Always IpcKept start as ↔ machine.Meets ExecFinds start as :=
  Machine.always_iff_meets (fun _ h => h.kept) (fun _ _ _ hs ha h => hs.step ha h)
    (fun _ _ _ hs ha h => not_kept_of_exit hs ha h) as coordinated_start

/-- A manager that has got through `Init`. -/
def openedPark : List (LifeAction ℕ) :=
  [.start 0 true, .getArray 0 ⟨true, 1, some 5, false⟩,
   .attach 0 ⟨true, ⟨true, true⟩, 2, some 7, true⟩, .initImpl 0 .returns]

-- The copy that fails in `execl` removes the segment while the manager is in `Run`.
example : (machine.exec start (openedPark ++ [.createProcess 0 1, .exec 1 false])).map
    (fun s => ((s.procs 0).point, s.segments)) = some (.run, [.release 7 true, .acquire 7]) := by
  decide

/-! ## A manager that has died -/

/-- What a dead owner leaves is there, and no other manager gets past `GetSemaphoreArray`. -/
def Blocked (i : ι) (id : ℤ) (s : ParkProcesses ι) : Prop :=
  held s.arrays = {id} ∧ ∀ j, j ≠ i → (s.procs j).create = true →
    (s.procs j).point ≠ .attach ∧ (s.procs j).point ≠ .initImpl ∧ (s.procs j).point ≠ .run

omit [DecidableEq ι] in
theorem Coordinated.blocked (hs : s.Coordinated) {id : ℤ} (hi : (s.procs i).ownedArray = some id) :
    s.Blocked i id := by
  refine ⟨hs.arrays.holds i id hi, ?_⟩
  intro j hj hcreate
  have hnone : (s.procs j).ownedArray = none := by
    by_contra hne
    exact hj (hs.arrays.alone j i hne (by simp [hi]))
  refine ⟨?_, ?_, ?_⟩
  · intro hpoint
    obtain ⟨hforked, -, a, ha, howner, -⟩ := hs.stands hpoint
    rw [Process.ownedArray_eq hforked ha, howner, hcreate, if_pos rfl] at hnone
    cases hnone
  all_goals
    intro hpoint
    obtain ⟨hforked, a, m, ha, -, howner, -⟩ := hs.stands hpoint
    rw [Process.ownedArray_eq hforked ha, howner, hcreate, if_pos rfl] at hnone
    cases hnone

/-- A step changes one process, which is alive or yet to be born. -/
theorem procs_of_step {a : LifeAction ι} (h : machine.step s a = some t) :
    ∃ j p, t.procs = Function.update s.procs j p ∧
      ((s.procs j).alive = true ∨ (s.procs j).point = .absent) := by
  change ParkProcesses.step s a = some t at h
  cases a with
  | start j create =>
    simp only [ParkProcesses.step, Option.ite_none_right_eq_some, Option.some.injEq] at h
    obtain ⟨hpoint, rfl⟩ := h
    exact ⟨j, _, rfl, .inr hpoint⟩
  | getArray j o =>
    simp only [ParkProcesses.step, Option.ite_none_right_eq_some, Option.map_eq_some_iff] at h
    obtain ⟨⟨hpoint, -⟩, r, -, rfl⟩ := h
    exact ⟨j, r.1, rfl, .inl (by rw [Process.alive, hpoint])⟩
  | attach j o =>
    simp only [ParkProcesses.step, Option.ite_none_right_eq_some, Option.map_eq_some_iff] at h
    obtain ⟨⟨hpoint, -⟩, r, -, rfl⟩ := h
    exact ⟨j, r.1, rfl, .inl (by rw [Process.alive, hpoint])⟩
  | createProcess k j =>
    simp only [ParkProcesses.step, Option.ite_none_right_eq_some, Option.some.injEq] at h
    obtain ⟨⟨-, -, -, habsent⟩, rfl⟩ := h
    exact ⟨j, _, rfl, .inr habsent⟩
  | exec j found =>
    simp only [ParkProcesses.step, Option.ite_none_right_eq_some] at h
    obtain ⟨hpoint, h⟩ := h
    have halive : (s.procs j).alive = true := by rw [Process.alive, hpoint]
    split at h
    · obtain rfl := Option.some.inj h
      exact ⟨j, _, rfl, .inl halive⟩
    · obtain rfl := Option.some.inj h
      exact ⟨j, _, rfl, .inl halive⟩
  | drop j =>
    simp only [ParkProcesses.step] at h
    split at h
    next code hpoint =>
      obtain rfl := Option.some.inj h
      exact ⟨j, _, rfl, .inl (by rw [Process.alive, hpoint])⟩
    next code hpoint =>
      obtain rfl := Option.some.inj h
      exact ⟨j, _, rfl, .inl (by rw [Process.alive, hpoint])⟩
    · cases h
  | initImpl j o | run j =>
    simp only [ParkProcesses.step, Option.ite_none_right_eq_some, Option.some.injEq] at h
    obtain ⟨hpoint, rfl⟩ := h
    exact ⟨j, _, rfl, .inl (by rw [Process.alive, hpoint])⟩
  | closeImpl j throws =>
    simp only [ParkProcesses.step] at h
    split at h
    next pauseSet hpoint =>
      obtain rfl := Option.some.inj h
      exact ⟨j, _, rfl, .inl (by rw [Process.alive, hpoint])⟩
    · cases h
  | kill j =>
    simp only [ParkProcesses.step, Option.ite_none_right_eq_some, Option.some.injEq] at h
    obtain ⟨halive, rfl⟩ := h
    exact ⟨j, _, rfl, .inl halive⟩

/-- A dead owner is left as it is. -/
theorem Coordinated.procs_of_dead (hs : s.Coordinated) (hdead : (s.procs i).alive = false)
    (howned : (s.procs i).ownedArray ≠ none) {a : LifeAction ι} (h : machine.step s a = some t) :
    t.procs i = s.procs i := by
  obtain ⟨j, p, hprocs, hj⟩ := procs_of_step h
  have hne : i ≠ j := by
    rintro rfl
    obtain halive | habsent := hj
    · cases hdead.symm.trans halive
    · exact howned (hs.unborn habsent).1
  rw [hprocs, Function.update_of_ne hne]

/-- In a state that processes whose copies find their programs have reached, whoever has died owning
the array, in `pCloseImpl` after an `Init` that has failed half-way or anywhere else, keeps every
later manager out of the park for as long as the copies find their programs. -/
theorem blocked_of_deadOwner {as bs : List (LifeAction ι)} (hrun : machine.exec start as = some s)
    (has : machine.Meets ExecFinds start as) (hbs : machine.Meets ExecFinds s bs) {id : ℤ}
    (hdead : (s.procs i).alive = false) (howned : (s.procs i).ownedArray = some id) :
    machine.Always (Blocked i id) s bs := by
  have hs : s.Coordinated :=
    (Machine.always_of_meets (fun _ h => h) (fun _ _ _ hs ha h => hs.step ha h)
      coordinated_start has).of_exec hrun
  refine Machine.always_of_meets (I := fun t => t.Coordinated ∧ t.procs i = s.procs i) ?_ ?_
    ⟨hs, rfl⟩ hbs
  · rintro t ⟨ht, hsame⟩
    exact ht.blocked (hsame ▸ howned)
  · rintro t a u ⟨ht, hsame⟩ ha h
    refine ⟨ht.step ha h, ?_⟩
    rw [ht.procs_of_dead (hsame ▸ hdead) (by simp [hsame, howned]) h, hsame]

/-- A manager for which no segment is left dies in `pCloseImpl`. -/
def failedInit : List (LifeAction ℕ) :=
  [.start 0 true, .getArray 0 ⟨true, 1, some 5, false⟩,
   .attach 0 ⟨true, ⟨true, true⟩, 2, none, true⟩, .closeImpl 0 false]

/-- The park is started again, and killed. -/
theorem failedInit_blocked : ∃ s : ParkProcesses ℕ, machine.exec start failedInit = some s ∧
    (s.procs 0).point = .segfault ∧ machine.Always (Blocked 0 5) s
      [.start 1 true, .getArray 1 ⟨true, 1, none, false⟩, .closeImpl 1 false] :=
  ⟨_, rfl, rfl, blocked_of_deadOwner (show machine.exec start failedInit = some _ from rfl)
    (Machine.meets_of_mem (by simp [failedInit, ExecFinds]) _)
    (Machine.meets_of_mem (by simp [ExecFinds]) _) rfl rfl⟩

end ParkProcesses
end AmusementPark.Main
