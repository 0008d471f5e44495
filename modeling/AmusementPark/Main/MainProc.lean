import AmusementPark.Main.ManagerRun
import AmusementPark.Park.SharedMemory

/-! # The manager and its shutdown handler

`MainProc` from the moment its signal handlers are installed to the end of
`pCloseImpl`. `SIGINT` and `SIGTERM` share the handler `HandleSigint`, which may
interrupt the manager between any two of its steps, and also the handler of the
other signal. The kernel holds back only the signal that is being handled.
-/
namespace AmusementPark.Main
open Park

inductive Signal where
  | sigInt
  | sigTerm
deriving DecidableEq

/-- Inside `GetSemLock().Execute(f)`: the points of `LockPoint`, with whether the semaphore has been
taken. -/
inductive SectionPoint where
  | acquire
  | blocked
  | executing (locked : Bool)
  | leaving (locked : Bool)
deriving DecidableEq

/-- Where `HandleSigint` stands. The target of a `kill` is read before the call. -/
inductive HandlerPoint where
  | critical (p : SectionPoint)
  | readCashier
  | killCashier (target : Pid)
  | readRestaurant
  | killRestaurant (target : Pid)
  | openSemaphores
deriving DecidableEq

structure HandlerFrame where
  signal : Signal
  point : HandlerPoint
deriving DecidableEq

/-- Where the interrupted code stands: in `pInitImpl` before, in and after its critical section
and past the assignment of `m_pauseSemaphore`, in `Run`, in `pCloseImpl`, or past it. -/
inductive MainPoint where
  | starting
  | opening (p : SectionPoint)
  | opened
  | launching
  | running
  | closing (p : SectionPoint)
  | waiting
  | ended
deriving DecidableEq

/-- `frames` are the active calls of `HandleSigint`, the innermost first; `pauseSemaphore` tells
whether `m_pauseSemaphore` is set. A call through the null pointer ends the process. -/
structure MainProc where
  base : MainPoint
  frames : List HandlerFrame
  pauseSemaphore : Bool
  crashed : Bool
deriving DecidableEq

/-- The manager with the shared data and the value of the lock's semaphore. -/
structure MainSystem (n : ℕ) where
  proc : MainProc
  data : SharedData n
  lock : ℕ

inductive MainAction where
  | main
  | mainThrows
  | deliver (signal : Signal)
deriving DecidableEq

/-- The manager when it has just installed its handlers. -/
def MainProc.installed : MainProc := ⟨.starting, [], false, false⟩

/-- One step of `GetSemLock().Execute(f)`; there is no next point after the last one. -/
def SectionPoint.step {n : ℕ} (f : SharedData n → SharedData n) (data : SharedData n)
    (lock : ℕ) : SectionPoint → Option (Option SectionPoint × SharedData n × ℕ)
  | .acquire => if 0 < lock then some (some (.executing true), data, lock - 1)
      else some (some .blocked, data, lock)
  | .blocked => if 0 < lock then some (some (.executing true), data, lock - 1) else none
  | .executing locked => some (some (.leaving locked), f data, lock)
  | .leaving _ => some (none, data, lock + 1)

/-- After `EINTR` the constructor of the lock goes on without the semaphore. -/
def SectionPoint.interrupted : SectionPoint → SectionPoint
  | .blocked => .executing false
  | p => p

def HandlerFrame.interrupted (f : HandlerFrame) : HandlerFrame :=
  match f.point with
  | .critical p => { f with point := .critical p.interrupted }
  | _ => f

def MainPoint.interrupted : MainPoint → MainPoint
  | .opening p => .opening p.interrupted
  | .closing p => .closing p.interrupted
  | point => point

namespace MainSystem
variable {n : ℕ}

def setOpen (isOpen : Bool) (data : SharedData n) : SharedData n := { data with isOpen := isOpen }

/-- A step of `pInitImpl`, `Run` or `pCloseImpl`. -/
def stepBase (s : MainSystem n) : Option (MainSystem n) :=
  match s.proc.base with
  | .starting => some { s with proc := { s.proc with base := .opening .acquire } }
  | .opening p => (p.step (setOpen true) s.data s.lock).map fun (q, data, lock) =>
      ⟨{ s.proc with base := q.elim .opened .opening }, data, lock⟩
  | .opened => some { s with proc := { s.proc with base := .launching, pauseSemaphore := true } }
  | .launching => some { s with proc := { s.proc with base := .running } }
  | .running => some { s with proc := { s.proc with
      base := if s.data.isOpen then .running else .closing .acquire } }
  | .closing p => (p.step (setOpen false) s.data s.lock).map fun (q, data, lock) =>
      ⟨{ s.proc with base := q.elim .waiting .closing }, data, lock⟩
  | .waiting => some { s with proc := if s.proc.pauseSemaphore then { s.proc with base := .ended }
      else { s.proc with crashed := true } }
  | .ended => none

/-- The manager with its innermost handler at the given point. -/
def inHandler (s : MainSystem n) (signal : Signal) (rest : List HandlerFrame)
    (point : HandlerPoint) : MainProc := { s.proc with frames := ⟨signal, point⟩ :: rest }

/-- A step of the innermost `HandleSigint`. -/
def stepHandler (s : MainSystem n) (signal : Signal) (rest : List HandlerFrame) :
    HandlerPoint → Option (MainSystem n)
  | .critical p => (p.step (setOpen false) s.data s.lock).map fun (q, data, lock) =>
      ⟨s.inHandler signal rest (q.elim .readCashier .critical), data, lock⟩
  | .readCashier => some { s with
      proc := s.inHandler signal rest (.killCashier s.data.cashierPID) }
  | .killCashier _ => some { s with proc := s.inHandler signal rest .readRestaurant }
  | .readRestaurant => some { s with
      proc := s.inHandler signal rest (.killRestaurant (s.data.attractionPID restaurantSlot)) }
  | .killRestaurant _ => some { s with proc := s.inHandler signal rest .openSemaphores }
  | .openSemaphores => some { s with proc := if s.proc.pauseSemaphore
      then { s.proc with frames := rest } else { s.proc with crashed := true } }

def step (s : MainSystem n) (a : MainAction) : Option (MainSystem n) :=
  if s.proc.crashed = true then none else match a with
  | .main => match s.proc.frames with
    | [] => s.stepBase
    | ⟨signal, point⟩ :: rest => s.stepHandler signal rest point
  -- a failing pthread_create or fork leads main() to Close
  | .mainThrows => if s.proc.frames = [] ∧ s.proc.base ∈ [.starting, .launching, .running] then
      some { s with proc := { s.proc with base := .closing .acquire } } else none
  | .deliver signal => if s.proc.base = .ended ∨ signal ∈ s.proc.frames.map (·.signal) then none
      else some { s with proc := { s.proc with
        base := if s.proc.frames = [] then s.proc.base.interrupted else s.proc.base
        frames := ⟨signal, .critical .acquire⟩ ::
          s.proc.frames.modifyHead HandlerFrame.interrupted } }

/-! ## The critical section of the two models of the manager -/

/-- The point without the knowledge whether the semaphore has been taken. -/
def lockPoint : SectionPoint → LockPoint
  | .acquire => .acquire
  | .blocked => .blocked
  | .executing _ => .executing
  | .leaving _ => .leaving

/-- A section that closes the park takes the steps of `LockPoint`. -/
theorem lockPoint_step (p : SectionPoint) (data : SharedData n) (lock : ℕ) :
    (p.step (setOpen false) data lock).map (fun (q, data, lock) =>
        (q.map lockPoint, data.isOpen, lock)) = (lockPoint p).step data.isOpen lock := by
  cases p with
  | acquire | blocked =>
    by_cases hlock : 0 < lock <;>
      simp [SectionPoint.step, LockPoint.step, lockPoint, hlock]
  | executing locked => rfl
  | leaving locked => rfl

theorem lockPoint_interrupted (p : SectionPoint) :
    lockPoint p.interrupted = (lockPoint p).interrupted := by
  cases p <;> rfl

/-! ## What a step can do to the calls of `HandleSigint` -/

/-- A target is what the handler has just read. -/
def Reads (s : MainSystem n) (point : HandlerPoint) : HandlerPoint → Prop
  | .killCashier target => point = .readCashier ∧ target = s.data.cashierPID
  | .killRestaurant target =>
    point = .readRestaurant ∧ target = s.data.attractionPID restaurantSlot
  | _ => True

/-- The interrupted code only runs without an active handler, a handler only without one above
it. -/
inductive Move (s : MainSystem n) (a : MainAction) (p : MainProc) : Prop where
  | base (hs : s.proc.frames = []) (hp : p.frames = [])
  | stays (hbase : p.base = s.proc.base) (hp : p.frames = s.proc.frames)
  | returns (hbase : p.base = s.proc.base) (f : HandlerFrame) (hs : s.proc.frames = f :: p.frames)
  | handles (hbase : p.base = s.proc.base) (ha : a = .main) (signal : Signal)
      (point point' : HandlerPoint) (rest : List HandlerFrame)
      (hs : s.proc.frames = ⟨signal, point⟩ :: rest)
      (hp : p.frames = ⟨signal, point'⟩ :: rest) (hreads : s.Reads point point')
  | delivers (hbase : p.base = s.proc.base ∨ p.base = s.proc.base.interrupted)
      (signal : Signal) (ha : a = .deliver signal)
      (hp : p.frames =
        ⟨signal, .critical .acquire⟩ :: s.proc.frames.modifyHead HandlerFrame.interrupted)

/-- The manager writes no process identifier into the shared data. -/
structure KeepsPids (data data' : SharedData n) : Prop where
  cashier : data'.cashierPID = data.cashierPID
  attractions : data'.attractionPID = data.attractionPID

theorem section_keepsPids {isOpen : Bool} {data data' : SharedData n} {lock lock' : ℕ}
    {p : SectionPoint} {q : Option SectionPoint}
    (h : p.step (setOpen isOpen) data lock = some (q, data', lock')) : KeepsPids data data' := by
  cases p with
  | acquire =>
    simp only [SectionPoint.step] at h
    split at h <;> obtain ⟨-, rfl, -⟩ := h <;> exact ⟨rfl, rfl⟩
  | blocked =>
    simp only [SectionPoint.step, Option.ite_none_right_eq_some, Option.some.injEq,
      Prod.mk.injEq] at h
    obtain ⟨-, -, rfl, -⟩ := h
    exact ⟨rfl, rfl⟩
  | executing locked =>
    simp only [SectionPoint.step, Option.some.injEq, Prod.mk.injEq] at h
    obtain ⟨-, rfl, -⟩ := h
    exact ⟨rfl, rfl⟩
  | leaving locked =>
    simp only [SectionPoint.step, Option.some.injEq, Prod.mk.injEq] at h
    obtain ⟨-, rfl, -⟩ := h
    exact ⟨rfl, rfl⟩

theorem stepBase_keeps {s t : MainSystem n} (h : s.stepBase = some t) :
    t.proc.frames = s.proc.frames ∧ KeepsPids s.data t.data := by
  cases hbase : s.proc.base with
  | opening p | closing p =>
    simp only [stepBase, hbase, Option.map_eq_some_iff] at h
    obtain ⟨⟨q, data, lock⟩, hstep, rfl⟩ := h
    exact ⟨rfl, section_keepsPids hstep⟩
  | starting | opened | launching | running =>
    simp only [stepBase, hbase, Option.some.injEq] at h
    subst h
    exact ⟨rfl, rfl, rfl⟩
  | waiting =>
    simp only [stepBase, hbase, Option.some.injEq] at h
    subst h
    refine ⟨?_, rfl, rfl⟩
    dsimp only
    split <;> rfl
  | ended => simp [stepBase, hbase] at h

theorem stepHandler_move {s t : MainSystem n} {signal : Signal} {point : HandlerPoint}
    {rest : List HandlerFrame} (hframes : s.proc.frames = ⟨signal, point⟩ :: rest)
    (h : s.stepHandler signal rest point = some t) :
    s.Move .main t.proc ∧ KeepsPids s.data t.data := by
  cases point with
  | critical p =>
    simp only [stepHandler, Option.map_eq_some_iff] at h
    obtain ⟨⟨q, data, lock⟩, hstep, rfl⟩ := h
    refine ⟨.handles rfl rfl signal _ _ rest hframes rfl ?_, section_keepsPids hstep⟩
    cases q <;> trivial
  | readCashier | readRestaurant =>
    simp only [stepHandler, Option.some.injEq] at h
    subst h
    exact ⟨.handles rfl rfl signal _ _ rest hframes rfl ⟨rfl, rfl⟩, rfl, rfl⟩
  | killCashier target | killRestaurant target =>
    simp only [stepHandler, Option.some.injEq] at h
    subst h
    exact ⟨.handles rfl rfl signal _ _ rest hframes rfl trivial, rfl, rfl⟩
  | openSemaphores =>
    simp only [stepHandler, Option.some.injEq] at h
    subst h
    refine ⟨?_, rfl, rfl⟩
    dsimp only
    split
    · exact .returns rfl _ hframes
    · exact .stays rfl rfl

theorem step_move {s t : MainSystem n} {a : MainAction} (h : s.step a = some t) :
    s.Move a t.proc ∧ KeepsPids s.data t.data := by
  simp only [step, Option.ite_none_left_eq_some] at h
  obtain ⟨-, h⟩ := h
  cases a with
  | main =>
    cases hframes : s.proc.frames with
    | nil =>
      simp only [hframes] at h
      obtain ⟨hkeep, hpids⟩ := stepBase_keeps h
      exact ⟨.base hframes (hkeep.trans hframes), hpids⟩
    | cons f rest =>
      simp only [hframes] at h
      exact stepHandler_move hframes h
  | mainThrows =>
    simp only [Option.ite_none_right_eq_some, Option.some.injEq] at h
    obtain ⟨⟨hframes, -⟩, rfl⟩ := h
    exact ⟨.base hframes hframes, rfl, rfl⟩
  | deliver signal =>
    simp only [Option.ite_none_left_eq_some, Option.some.injEq] at h
    obtain ⟨-, rfl⟩ := h
    refine ⟨.delivers ?_ signal rfl rfl, rfl, rfl⟩
    dsimp only
    split
    · exact .inr rfl
    · exact .inl rfl

end MainSystem
end AmusementPark.Main
