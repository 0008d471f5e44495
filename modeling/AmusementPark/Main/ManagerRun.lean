import AmusementPark.Library.Machine
import AmusementPark.SimulationData

/-! # The manager's loop, its children and its signals

`MainProc` from the first test of `Run` to the removal of its IPC objects. The
four handlers are installed without `SA_RESTART`: a signal interrupts the
manager between two of its steps, and ends the call it is blocked in. Only the
signal being handled is held back. The thread of the logger blocks no signal
either, and runs the handlers that fall to it beside the manager.
-/
namespace AmusementPark.Main

/-- The signals with a handler. -/
inductive ManagerSignal where
  | sigInt
  | sigTerm
  | sigUsr1
  | sigUsr2
deriving DecidableEq

/-- Inside `GetSemLock().Execute(f)`: before the `semop` of the constructor, blocked in it, before
`f`, and before the `Signal` of the destructor. -/
inductive LockPoint where
  | acquire
  | blocked
  | executing
  | leaving
deriving DecidableEq

/-- Where a call of a handler stands: the points of `HandleSigint`, those of `HandleSigusr1`, and
the one of `HandleSigusr2`. -/
inductive CallPoint where
  | critical (p : LockPoint)
  | killCashier
  | killRestaurant
  | signalLoops
  | openPause
  | closePause
  | setPaused
  | resumePause
deriving DecidableEq

structure SignalCall where
  signal : ManagerSignal
  point : CallPoint
deriving DecidableEq

/-- Where the interrupted code stands: in `Run`, in `pCloseImpl`, or past `Close`. -/
inductive LoopPoint where
  | testOpen
  | create
  | sleep
  | testPaused
  | pauseWait
  | pauseBlocked
  | clearPaused
  | closing (p : LockPoint)
  | signalLoops
  | openPause
  | callWait
  | waiting
  | sendEnd
  | join
  | removed
deriving DecidableEq

/-- `calls` are the active calls of the handlers on this thread, the innermost first. `pauseValue`
and `lock` are the values of the two semaphores, `children` the processes that have not
terminated. -/
structure Manager where
  point : LoopPoint
  calls : List SignalCall
  paused : Bool
  pauseValue : ℕ
  isOpen : Bool
  lock : ℕ
  children : Finset Pid
deriving DecidableEq

inductive ManagerAction where
  | main
  | fork (pid : Pid)
  | forkFails
  | logThrows
  | deliver (signal : ManagerSignal)
  | exits (pid : Pid)
  | others (lock : ℕ)
deriving DecidableEq

def ManagerSignal.entry : ManagerSignal → CallPoint
  | .sigInt | .sigTerm => .critical .acquire
  | .sigUsr1 => .closePause
  | .sigUsr2 => .resumePause

/-- One step of `Execute` with a function that closes the park; there is no next point after the
last one. -/
def LockPoint.step (isOpen : Bool) (lock : ℕ) : LockPoint → Option (Option LockPoint × Bool × ℕ)
  | .acquire => if 0 < lock then some (some .executing, isOpen, lock - 1)
      else some (some .blocked, isOpen, lock)
  | .blocked => if 0 < lock then some (some .executing, isOpen, lock - 1) else none
  | .executing => some (some .leaving, false, lock)
  | .leaving => some (none, isOpen, lock + 1)

/-- After `EINTR` the constructor of the lock goes on without the semaphore. -/
def LockPoint.interrupted : LockPoint → LockPoint
  | .blocked => .executing
  | p => p

def SignalCall.interrupted (c : SignalCall) : SignalCall :=
  match c.point with
  | .critical p => { c with point := .critical p.interrupted }
  | _ => c

/-- `EINTR` ends the `Wait` of the pause, which is not retried, and the loop around `wait`. -/
def LoopPoint.interrupted : LoopPoint → LoopPoint
  | .pauseBlocked => .clearPaused
  | .waiting => .sendEnd
  | .closing p => .closing p.interrupted
  | point => point

namespace Manager

/-- The manager at the begin of `Run`; `pOpenAllLoopSemaphores` has set `MainPause` to 1. -/
def started (lock : ℕ) (children : Finset Pid) : Manager :=
  ⟨.testOpen, [], false, 1, true, lock, children⟩

/-- A step of `Run` or `pCloseImpl` other than `CreateProcess`. -/
def stepLoop (s : Manager) : Option Manager :=
  match s.point with
  | .testOpen => some { s with point := if s.isOpen then .create else .closing .acquire }
  | .create => none
  | .sleep => some { s with point := .testPaused }
  | .testPaused => some { s with point := if s.paused then .pauseWait else .clearPaused }
  | .pauseWait => some (if 0 < s.pauseValue then
      { s with point := .clearPaused, pauseValue := s.pauseValue - 1 }
      else { s with point := .pauseBlocked })
  | .pauseBlocked => if 0 < s.pauseValue then
      some { s with point := .clearPaused, pauseValue := s.pauseValue - 1 } else none
  | .clearPaused => some { s with point := .testOpen, paused := false }
  | .closing p => (p.step s.isOpen s.lock).map fun (q, isOpen, lock) =>
      { s with point := q.elim .signalLoops .closing, isOpen := isOpen, lock := lock }
  | .signalLoops => some { s with point := .openPause }
  | .openPause => some { s with point := .callWait, pauseValue := 1 }
  -- with SIGCHLD ignored, wait fails with ECHILD once there is no child left
  | .callWait => some { s with point := if s.children = ∅ then .sendEnd else .waiting }
  | .waiting => if s.children = ∅ then some { s with point := .sendEnd } else none
  | .sendEnd => some { s with point := .join }
  | .join => some { s with point := .removed }
  | .removed => none

/-- A step of the innermost handler. -/
def stepCall (s : Manager) (c : SignalCall) (rest : List SignalCall) : Option Manager :=
  match c.point with
  | .critical p => (p.step s.isOpen s.lock).map fun (q, isOpen, lock) =>
      { s with
        calls := ⟨c.signal, q.elim .killCashier .critical⟩ :: rest
        isOpen := isOpen
        lock := lock }
  | .killCashier => some { s with calls := ⟨c.signal, .killRestaurant⟩ :: rest }
  | .killRestaurant => some { s with calls := ⟨c.signal, .signalLoops⟩ :: rest }
  | .signalLoops => some { s with calls := ⟨c.signal, .openPause⟩ :: rest }
  | .openPause => some { s with calls := rest, pauseValue := 1 }
  | .closePause => some { s with calls := ⟨c.signal, .setPaused⟩ :: rest, pauseValue := 0 }
  | .setPaused => some { s with calls := rest, paused := true }
  | .resumePause => some { s with calls := rest, pauseValue := 1 }

/-- The delivery of a signal to this thread: whatever runs on it is interrupted, and the handler
begins. -/
def deliver (s : Manager) (signal : ManagerSignal) : Manager :=
  { s with
    point := if s.calls = [] then s.point.interrupted else s.point
    calls := ⟨signal, signal.entry⟩ :: s.calls.modifyHead SignalCall.interrupted }

def step (s : Manager) : ManagerAction → Option Manager
  | .main => match s.calls with
    | [] => s.stepLoop
    | c :: rest => s.stepCall c rest
  | .fork pid => if s.calls = [] ∧ s.point = .create ∧ pid ∉ s.children then
      some { s with point := .sleep, children := insert pid s.children } else none
  -- a failing fork leads main() to Close
  | .forkFails => if s.calls = [] ∧ s.point = .create then
      some { s with point := .closing .acquire } else none
  | .logThrows => if s.calls = [] ∧ s.point = .sendEnd then
      some { s with point := .removed } else none
  | .deliver signal => if s.point = .removed ∨ signal ∈ s.calls.map (·.signal) then none
      else some (s.deliver signal)
  | .exits pid => if pid ∈ s.children then
      some { s with children := s.children.erase pid } else none
  | .others lock => some { s with lock := lock }

def machine : Library.Machine Manager ManagerAction := ⟨step⟩

end Manager

/-! ## The thread of the logger -/

/-- The manager beside the active calls of the handlers on the thread of the logger. -/
structure ThreadedManager where
  manager : Manager
  loggerCalls : List SignalCall
deriving DecidableEq

/-- `run` is a step of the manager's own thread or of the other processes. -/
inductive ThreadedAction where
  | run (a : ManagerAction)
  | loggerDeliver (signal : ManagerSignal)
  | loggerCall
deriving DecidableEq

namespace ThreadedManager

/-- The two threads at the begin of `Run`. -/
def started (lock : ℕ) (children : Finset Pid) : ThreadedManager :=
  ⟨.started lock children, []⟩

def step (s : ThreadedManager) : ThreadedAction → Option ThreadedManager
  -- pthread_join waits for the handlers of the other thread
  | .run a => if a = .main ∧ s.manager.calls = [] ∧ s.manager.point = .join ∧ s.loggerCalls ≠ []
      then none else (s.manager.step a).map fun t => { s with manager := t }
  | .loggerDeliver signal =>
    if s.manager.point = .removed ∨ signal ∈ s.loggerCalls.map (·.signal) then none
    else some { s with
      loggerCalls := ⟨signal, signal.entry⟩ :: s.loggerCalls.modifyHead SignalCall.interrupted }
  | .loggerCall => match s.loggerCalls with
    | [] => none
    | c :: rest => (s.manager.stepCall c rest).map fun t =>
        ⟨{ t with calls := s.manager.calls }, t.calls⟩

def machine : Library.Machine ThreadedManager ThreadedAction := ⟨step⟩

end ThreadedManager
end AmusementPark.Main
