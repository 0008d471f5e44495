import AmusementPark.Library.Machine
import AmusementPark.Library.Population
import AmusementPark.Library.UndoSemaphore

/-! # The lock of the shared simulation data

Processes run `GetSemLock().Execute(f)` on one System V semaphore. The
constructor of `SemaphoreLock` waits with `SEM_UNDO`, `Release` signals without
it, so every completed critical section leaves one unit in the adjustment of
its process. The kernel adds that adjustment to the semaphore at the exit of
the process. No signal interrupts a call here.
-/
namespace AmusementPark.Ipc
open Library

section Operations
variable {P : Type*} [DecidableEq P]

/-- Conversion of an integer to `int16_t`. -/
def toInt16 (n : ℤ) : ℤ := n.bmod (2 ^ 16)

/-- `SemaphoreArray::SemSignal` without a timeout and without interrupts: a single `semop`,
which blocks until the kernel grants it. -/
def semSignal (S : UndoSemaphore P) (p : P) (value : ℤ) (semundo : Bool) :
    Option (UndoSemaphore P) :=
  S.semop p value semundo

/-- `SemaphoreStruct::Wait`. -/
def wait (S : UndoSemaphore P) (p : P) (value : ℕ) (semundo : Bool) : Option (UndoSemaphore P) :=
  semSignal S p (toInt16 (-toInt16 value)) semundo

/-- `SemaphoreStruct::Signal`, never with `SEM_UNDO`. -/
def signal (S : UndoSemaphore P) (p : P) (value : ℕ) : Option (UndoSemaphore P) :=
  semSignal S p (toInt16 value) false

theorem wait_one_eq_some {S T : UndoSemaphore P} {p : P} :
    wait S p 1 true = some T ↔ 0 ≤ S.value - 1 ∧
      T = ⟨S.value - 1, Function.update S.adjustment p (S.adjustment p + 1)⟩ := by
  have hone : toInt16 (-toInt16 ((1 : ℕ) : ℤ)) = -1 := by decide
  rw [wait, semSignal, hone, UndoSemaphore.semop_undo_eq_some (by omega)]
  simp only [sub_neg_eq_add, ← sub_eq_add_neg]

theorem signal_one {S : UndoSemaphore P} {p : P} :
    signal S p 1 = some ⟨S.value + 1, S.adjustment⟩ := by
  have hone : toInt16 ((1 : ℕ) : ℤ) = 1 := by decide
  rw [signal, semSignal, hone, UndoSemaphore.semop_add (by omega)]

end Operations

/-- A `SemaphoreLock` object: its amount and whether it has released. -/
structure SemaphoreLock where
  val : ℕ
  released : Bool
deriving DecidableEq

/-- `SemaphoreLock::Release`. The result of `Signal` is ignored. -/
def SemaphoreLock.release {P : Type*} [DecidableEq P] (lock : SemaphoreLock)
    (S : UndoSemaphore P) (p : P) : SemaphoreLock × UndoSemaphore P :=
  ({ lock with released := true },
    if lock.released then S else (signal S p lock.val).getD S)

/-- Where a process is: without a lock object, in the function that `Execute` runs, past it
with the destructor of the lock still to come, or gone. -/
inductive Phase where
  | outside
  | executing (lock : SemaphoreLock)
  | leaving (lock : SemaphoreLock)
  | exited
deriving DecidableEq

def Phase.lock? : Phase → Option SemaphoreLock
  | .executing lock | .leaving lock => some lock
  | _ => none

/-- Between the `Wait` of the constructor and the `Signal` of `Release`. -/
def Phase.Inside (φ : Phase) : Prop := ∃ lock ∈ φ.lock?, lock.released = false

instance : DecidablePred Phase.Inside := fun φ => by
  unfold Phase.Inside
  infer_instance

structure LockState (P : Type*) where
  semaphore : UndoSemaphore P
  phase : P → Phase

inductive LockAction (P : Type*) where
  | construct (p : P)
  | functionReturns (p : P)
  | functionThrows (p : P)
  | destroy (p : P)
  | exit (p : P)

namespace LockState
variable {P : Type*}

section Steps
variable [DecidableEq P]

/-- One step of `GetSemLock().Execute(f)` by one process. -/
def step (s : LockState P) : LockAction P → Option (LockState P)
  | .construct p => if s.phase p = .outside then
      (wait s.semaphore p 1 true).map fun S =>
        ⟨S, Function.update s.phase p (.executing ⟨1, false⟩)⟩
      else none
  | .functionReturns p => match s.phase p with
    | .executing lock => some ⟨s.semaphore, Function.update s.phase p (.leaving lock)⟩
    | _ => none
  | .functionThrows p => match s.phase p with
    -- the handler in Execute releases before it rethrows
    | .executing lock =>
      let r := lock.release s.semaphore p
      some ⟨r.2, Function.update s.phase p (.leaving r.1)⟩
    | _ => none
  | .destroy p => match s.phase p with
    | .leaving lock =>
      some ⟨(lock.release s.semaphore p).2, Function.update s.phase p .outside⟩
    | _ => none
  | .exit p => if s.phase p = .exited then none else
      some ⟨s.semaphore.exitProcess p, Function.update s.phase p .exited⟩

/-- The state after the owner's `SetValue(1)` in `pAttachMemory`. -/
def attached : LockState P := ⟨.setVal 1, fun _ => .outside⟩

/-- How often each process has run the `Signal` of `Release`. -/
def countRelease (n : P → ℕ) (s : LockState P) (a : LockAction P) (_ : LockState P) : P → ℕ :=
  match a with
  | .functionThrows p | .destroy p =>
    if (s.phase p).Inside then Function.update n p (n p + 1) else n
  | _ => n

/-- The lock with its history of releases. -/
def machine (P : Type*) [DecidableEq P] : Machine (LockState P × (P → ℕ)) (LockAction P) :=
  Machine.observe ⟨step⟩ countRelease

end Steps

variable [Fintype P]

/-- The number of live processes inside a critical section. -/
def inside (s : LockState P) : ℕ := population Phase.Inside s.phase

/-- The semaphore's value and the processes inside always add up to one. -/
def MutualExclusion (s : LockState P) : Prop :=
  s.semaphore.value + s.inside = 1 ∧ s.inside ≤ 1

end LockState
end AmusementPark.Ipc
