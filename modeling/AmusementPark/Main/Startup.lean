import AmusementPark.Main.ManagerRun

/-! # The startup of the park

`MainProc::pInitImpl` beside `LoggerThread`, which it starts and waits for. A
signal that the manager's own thread handles ends the `sem_wait` with `EINTR`,
but its handler never comes back while `m_pauseSemaphore` is not set. Signals
that fall to `LoggerThread` are not modelled here. The result of
`pthread_create` is not looked at.
-/
namespace AmusementPark.Main
open Library

/-- The programs that `pInitImpl` starts. -/
inductive Program where
  | cashier
  | restaurant
  | attraction
deriving DecidableEq

/-- The children in the order of their creation. -/
def childPrograms : List Program :=
  .cashier :: .restaurant :: List.replicate (attractionCount - 1) .attraction

/-- The number of `logFileNames`. -/
def logFileCount : ℕ := 5

/-- Where `pInitImpl` stands; `install` and `create` know what is left of their loops, and
`semBlocked` is inside `sem_wait`. The last two are past the function and past an exception. -/
inductive InitPoint where
  | install (rest : List ManagerSignal)
  | ignoreChildren
  | semInit
  | createThread
  | semWait
  | semBlocked
  | semDestroy
  | testStatus
  | opening (p : LockPoint)
  | getPause
  | create (rest : List Program)
  | signalLoops
  | openPause
  | initialised
  | failed
deriving DecidableEq

/-- Where `LoggerThread` stands. It returns after a failed start, or after an exception of its
loop. -/
inductive ThreadPoint where
  | absent
  | openFile
  | openQueue
  | setReady
  | postReady
  | loop
  | setFailed
  | postFailed
  | failed
  | setThrown
  | thrown
deriving DecidableEq

/-- `g_loggerInitSem`. -/
inductive InitSemaphore where
  | unset
  | live (value : ℕ)
  | destroyed
deriving DecidableEq

/-- The manager with its thread and the shared data that it writes. `died` tells whether a signal
or a null pointer has ended the process, `misused` whether a call has met `g_loggerInitSem` unset
or destroyed, `pauseSet` whether `m_pauseSemaphore` is set. -/
structure Startup where
  point : InitPoint
  calls : List SignalCall
  died : Bool
  pauseSet : Bool
  initSem : InitSemaphore
  misused : Bool
  thread : ThreadPoint
  openFiles : ℕ
  queue : Option Pid
  loggerStatus : ℤ
  isOpen : Bool
  parkSize : ℕ
  mainPID : Pid
  lock : ℕ
  pauseValue : ℕ
  paused : Bool
  created : List Program
  children : Finset Pid
deriving DecidableEq

/-- `getpid()` and `PARK_SIZE`. -/
structure StartupSetting where
  pid : Pid
  parkSize : ℕ

/-- `deliver` is a signal that the thread of the manager handles. -/
inductive StartupAction where
  | main
  | throws
  | threadFails
  | fork (pid : Pid)
  | thread (succeeds : Bool)
  | deliver (signal : ManagerSignal)
  | exits (pid : Pid)
  | others (lock : ℕ)
deriving DecidableEq

/-- The next call of `pInitImpl` may throw. -/
def InitPoint.mayThrow : InitPoint → Bool
  | .install (_ :: _) | .ignoreChildren | .semInit | .create (_ :: _) => true
  | _ => false

/-- `EINTR` ends the `sem_wait`, whose result is not looked at, and the `Wait` for the lock. -/
def InitPoint.interrupted : InitPoint → InitPoint
  | .semBlocked => .semDestroy
  | .opening p => .opening p.interrupted
  | point => point

/-- The handler is about to call `m_pauseSemaphore`. -/
def CallPoint.usesPause : CallPoint → Bool
  | .openPause | .closePause | .resumePause => true
  | _ => false

namespace Startup

/-- The manager at the begin of `pInitImpl`, with its IPC objects just created. -/
def begin : Startup where
  point := .install [.sigInt, .sigTerm, .sigUsr1, .sigUsr2]
  calls := []
  died := false
  pauseSet := false
  initSem := .unset
  misused := false
  thread := .absent
  openFiles := 0
  queue := none
  loggerStatus := 0
  isOpen := false
  parkSize := 0
  mainPID := 0
  lock := 1
  pauseValue := 0
  paused := false
  created := []
  children := ∅

/-- The part of the state that the handlers and `Run` work on. -/
def manager (s : Startup) : Manager :=
  ⟨.testOpen, s.calls, s.paused, s.pauseValue, s.isOpen, s.lock, s.children⟩

/-- `sem_post` on `g_loggerInitSem`. -/
def post (s : Startup) : Startup :=
  match s.initSem with
  | .live value => { s with initSem := .live (value + 1) }
  | _ => { s with misused := true }

/-- `LoggerThread` drops its files and its queue. -/
def returned (s : Startup) (thread : ThreadPoint) : Startup :=
  { s with thread := thread, openFiles := 0, queue := none }

def stepThread (env : StartupSetting) (s : Startup) (succeeds : Bool) : Option Startup :=
  match s.thread with
  | .absent | .failed | .thrown => none
  | .openFile => some (if s.openFiles < logFileCount then
      if succeeds then { s with openFiles := s.openFiles + 1 } else { s with thread := .setFailed }
      else { s with thread := .openQueue })
  | .openQueue => some (if succeeds then { s with thread := .setReady, queue := some env.pid }
      else { s with thread := .setFailed })
  | .setReady => some { s with thread := .postReady, loggerStatus := 1 }
  | .postReady => some { s.post with thread := .loop }
  | .loop => some (if succeeds then s else { s with thread := .setThrown })
  | .setFailed => some { s with thread := .postFailed, loggerStatus := -1 }
  | .postFailed => some (s.post.returned .failed)
  | .setThrown => some ({ s with loggerStatus := -1 }.returned .thrown)

/-- A step of `pInitImpl` whose call neither throws nor starts a process. -/
def stepInit (env : StartupSetting) (s : Startup) : Option Startup :=
  match s.point with
  | .install [] => some { s with point := .ignoreChildren }
  | .install (_ :: rest) => some { s with point := .install rest }
  | .ignoreChildren => some { s with point := .semInit }
  | .semInit => some { s with point := .createThread, initSem := .live 0 }
  | .createThread => some { s with point := .semWait, thread := .openFile }
  | .semWait => match s.initSem with
    | .live 0 => some { s with point := .semBlocked }
    | .live (value + 1) => some { s with point := .semDestroy, initSem := .live value }
    | _ => some { s with point := .semDestroy, misused := true }
  | .semBlocked => match s.initSem with
    | .live (value + 1) => some { s with point := .semDestroy, initSem := .live value }
    | _ => none
  | .semDestroy => match s.initSem with
    | .live _ => some { s with point := .testStatus, initSem := .destroyed }
    | _ => some { s with point := .testStatus, misused := true }
  | .testStatus => some { s with
      point := if s.loggerStatus < 1 then .failed else .opening .acquire }
  | .opening p => (p.step s.isOpen s.lock).map fun (q, _, lock) =>
      let t := { s with point := q.elim .getPause .opening, lock := lock }
      if p = .executing then
        { t with isOpen := true, parkSize := env.parkSize, mainPID := env.pid }
      else t
  | .getPause => some { s with point := .create childPrograms, pauseSet := true }
  | .create [] => some { s with point := .signalLoops }
  | .create (_ :: _) => none
  | .signalLoops => some { s with point := .openPause }
  | .openPause => some { s with point := .initialised, pauseValue := 1 }
  | .initialised | .failed => none

/-- A step of the innermost handler. -/
def stepCall (s : Startup) (c : SignalCall) (rest : List SignalCall) : Option Startup :=
  if c.point.usesPause = true ∧ s.pauseSet = false then some { s with died := true }
  else (s.manager.stepCall c rest).map fun m => { s with
    calls := m.calls
    paused := m.paused
    pauseValue := m.pauseValue
    isOpen := m.isOpen
    lock := m.lock }

/-- Without a handler the signal ends the process. -/
def deliver (s : Startup) (signal : ManagerSignal) : Startup :=
  match s.point with
  | .install rest => if signal ∈ rest then { s with died := true } else
      { s with calls := ⟨signal, signal.entry⟩ :: s.calls.modifyHead SignalCall.interrupted }
  | point => { s with
      point := if s.calls = [] then point.interrupted else point
      calls := ⟨signal, signal.entry⟩ :: s.calls.modifyHead SignalCall.interrupted }

def step (env : StartupSetting) (s : Startup) (a : StartupAction) : Option Startup :=
  if s.died = true then none else match a with
  | .main => match s.calls with
    | [] => s.stepInit env
    | c :: rest => s.stepCall c rest
  | .throws => if s.calls = [] ∧ s.point.mayThrow = true then
      some { s with point := .failed } else none
  | .threadFails => if s.calls = [] ∧ s.point = .createThread then
      some { s with point := .semWait } else none
  | .fork pid => match s.point with
    | .create (program :: rest) => if s.calls = [] ∧ pid ∉ s.children then
        some { s with
          point := .create rest
          created := s.created ++ [program]
          children := insert pid s.children }
      else none
    | _ => none
  | .thread succeeds => s.stepThread env succeeds
  | .deliver signal => if signal ∈ s.calls.map (·.signal) then none else some (s.deliver signal)
  | .exits pid => if pid ∈ s.children then
      some { s with children := s.children.erase pid } else none
  | .others lock => some { s with lock := lock }

def machine (env : StartupSetting) : Machine Startup StartupAction := ⟨step env⟩

end Startup

/-- What `pInitImpl` can know of the thread: it is on its way to its `sem_post`, or past that of a
successful or of a failed start. -/
inductive ThreadStage where
  | absent
  | pending
  | started
  | failed
deriving DecidableEq

namespace ThreadPoint

def stage : ThreadPoint → ThreadStage
  | .absent => .absent
  | .openFile | .openQueue | .setReady | .postReady | .setFailed | .postFailed => .pending
  | .loop | .setThrown | .thrown => .started
  | .failed => .failed

theorem stage_eq_absent {p : ThreadPoint} : p.stage = .absent ↔ p = .absent := by
  cases p <;> decide

/-- It holds the log files and the logger's queue. -/
def holdsLogger : ThreadPoint → Bool
  | .setReady | .postReady | .loop | .setThrown => true
  | _ => false

end ThreadPoint

namespace InitPoint

/-- The shared data have been written. -/
def published : InitPoint → Bool
  | .opening .leaving | .getPause | .create _ | .signalLoops | .openPause | .initialised => true
  | _ => false

/-- `m_pauseSemaphore` has been assigned. -/
def pastPause : InitPoint → Bool
  | .create _ | .signalLoops | .openPause | .initialised => true
  | _ => false

end InitPoint

/-- The thread is to post, has posted, or has never been started. -/
def Awaited (initSem : InitSemaphore) (stage : ThreadStage) : Prop :=
  initSem = .live 0 ∧ (stage = .absent ∨ stage = .pending) ∨
    initSem = .live 1 ∧ (stage = .started ∨ stage = .failed)

/-- How far the thread and the semaphore are when `pInitImpl` stands at a point. An interrupted
`sem_wait` has a handler above it. -/
def Handshake (interrupted : Bool) (initSem : InitSemaphore) (stage : ThreadStage) :
    InitPoint → Prop
  | .install _ | .ignoreChildren | .semInit => initSem = .unset ∧ stage = .absent
  | .createThread => initSem = .live 0 ∧ stage = .absent
  | .semWait | .semBlocked => Awaited initSem stage
  | .semDestroy => interrupted = true ∧ Awaited initSem stage ∨
      initSem = .live 0 ∧ (stage = .started ∨ stage = .failed)
  | .testStatus => initSem = .destroyed ∧ (stage = .started ∨ stage = .failed)
  | .failed => initSem = .unset ∧ stage = .absent ∨
      initSem = .destroyed ∧ (stage = .started ∨ stage = .failed)
  | _ => initSem = .destroyed ∧ stage = .started

/-- What the children are when `pInitImpl` stands at a point. -/
def CreatesInOrder (created : List Program) : InitPoint → Prop
  | .create rest => created ++ rest = childPrograms
  | .signalLoops | .openPause | .initialised => created = childPrograms
  | .failed => created.IsPrefix childPrograms
  | _ => created = []

theorem CreatesInOrder.isPrefix {created : List Program} {point : InitPoint}
    (h : CreatesInOrder created point) : created.IsPrefix childPrograms := by
  cases point with
  | create rest => exact ⟨rest, h⟩
  | failed => exact h
  | signalLoops | openPause | initialised => exact h ▸ List.prefix_rfl
  | _ => exact h ▸ List.nil_prefix

section Interrupted
variable (point : InitPoint)

theorem interrupted_published : point.interrupted.published = point.published := by
  cases point with
  | opening p => cases p <;> rfl
  | _ => rfl

theorem interrupted_pastPause : point.interrupted.pastPause = point.pastPause := by
  cases point <;> rfl

theorem interrupted_createsInOrder (created : List Program) :
    CreatesInOrder created point.interrupted ↔ CreatesInOrder created point := by
  cases point <;> rfl

end Interrupted

/-- Before the thread has posted, the semaphore is live and nobody has come past it. -/
theorem Handshake.of_pending {interrupted : Bool} {initSem : InitSemaphore} {point : InitPoint}
    (h : Handshake interrupted initSem .pending point) : initSem = .live 0 ∧
      ∀ stage, stage = .pending ∨ stage = .started ∨ stage = .failed →
        Handshake interrupted (.live (if stage = .pending then 0 else 1)) stage point := by
  cases point <;> grind [Handshake, Awaited]

/-- A handler that begins, or that goes on. -/
theorem Handshake.interrupt {interrupted : Bool} {initSem : InitSemaphore} {stage : ThreadStage}
    {point : InitPoint} (h : Handshake interrupted initSem stage point) :
    Handshake true initSem stage point ∧ Handshake true initSem stage point.interrupted := by
  cases point <;> grind [Handshake, Awaited, InitPoint.interrupted]

namespace Startup

structure Coordinated (env : StartupSetting) (s : Startup) : Prop where
  handshake : Handshake (!s.calls.isEmpty) s.initSem s.thread.stage s.point
  misused : s.misused = false
  status : 1 ≤ s.loggerStatus → s.thread = .postReady ∨ s.thread = .loop ∨ s.thread = .setThrown
  files : s.openFiles ≤ logFileCount
  allFiles : s.thread = .openQueue ∨ s.thread.holdsLogger = true → s.openFiles = logFileCount
  queue : s.thread.holdsLogger = true → s.queue = some env.pid
  ready : s.created ≠ [] → s.thread.stage = .started
  data : s.created ≠ [] ∨ s.point.published = true →
    s.mainPID = env.pid ∧ s.parkSize = env.parkSize
  pauseSet : s.point.pastPause = true → s.pauseSet = true
  pastPause : s.pauseSet = true → s.point.pastPause = true ∨ s.point = .failed
  created : CreatesInOrder s.created s.point
  early : s.pauseSet = false → s.created = [] ∧ ∀ c ∈ s.calls, c.point ≠ .setPaused

variable {env : StartupSetting} {s t : Startup}

theorem coordinated_begin : begin.Coordinated env where
  handshake := ⟨rfl, rfl⟩
  misused := rfl
  status h := by simp [begin] at h
  files := Nat.zero_le _
  allFiles h := by simp [begin, ThreadPoint.holdsLogger] at h
  queue h := by simp [begin, ThreadPoint.holdsLogger] at h
  ready h := absurd rfl h
  data h := by simp [begin, InitPoint.published] at h
  pauseSet h := by simp [begin, InitPoint.pastPause] at h
  pastPause h := by simp [begin] at h
  created := rfl
  early _ := ⟨rfl, by simp [begin]⟩

@[simp] theorem post_openFiles (s : Startup) : s.post.openFiles = s.openFiles := by
  unfold post
  split <;> rfl

@[simp] theorem post_queue (s : Startup) : s.post.queue = s.queue := by
  unfold post
  split <;> rfl

/-- A step of the thread that does not post. -/
theorem Coordinated.moves (hs : s.Coordinated env) {thread : ThreadPoint} {openFiles : ℕ}
    {queue : Option Pid} {status : ℤ} (hstage : thread.stage = s.thread.stage)
    (hstatus : 1 ≤ status → thread = .postReady ∨ thread = .loop ∨ thread = .setThrown)
    (hfiles : openFiles ≤ logFileCount)
    (hall : thread = .openQueue ∨ thread.holdsLogger = true → openFiles = logFileCount)
    (hqueue : thread.holdsLogger = true → queue = some env.pid) :
    Coordinated env { s with
      thread := thread, openFiles := openFiles, queue := queue, loggerStatus := status } :=
  { hs with
    handshake := hstage ▸ hs.handshake
    status := hstatus
    files := hfiles
    allFiles := hall
    queue := hqueue
    ready := fun hne => hstage.trans (hs.ready hne) }

/-- The `sem_post` of the thread. -/
theorem Coordinated.posts (hs : s.Coordinated env) (hpending : s.thread.stage = .pending)
    {thread : ThreadPoint} {openFiles : ℕ} {queue : Option Pid}
    (hstage : thread.stage = .started ∨ thread.stage = .failed)
    (hstatus : 1 ≤ s.loggerStatus → thread = .postReady ∨ thread = .loop ∨ thread = .setThrown)
    (hfiles : openFiles ≤ logFileCount)
    (hall : thread = .openQueue ∨ thread.holdsLogger = true → openFiles = logFileCount)
    (hqueue : thread.holdsLogger = true → queue = some env.pid) :
    Coordinated env { s.post with
      thread := thread, openFiles := openFiles, queue := queue } := by
  obtain ⟨hlive, hpost⟩ := Handshake.of_pending (hpending ▸ hs.handshake)
  have hnext := hpost thread.stage (.inr hstage)
  rw [if_neg (by rcases hstage with h | h <;> simp [h])] at hnext
  simp only [post, hlive]
  exact { hs with
    handshake := hnext
    status := hstatus
    files := hfiles
    allFiles := hall
    queue := hqueue
    ready := fun hne => by
      have hready := hs.ready hne
      rw [hpending] at hready
      cases hready }

theorem Coordinated.thread (hs : s.Coordinated env) {succeeds : Bool}
    (h : s.stepThread env succeeds = some t) : t.Coordinated env := by
  have hstatus := hs.status
  have hfiles := hs.files
  have hall := hs.allFiles
  have hqueue := hs.queue
  cases hthread : s.thread with
  | absent | failed | thrown => simp [stepThread, hthread] at h
  | postReady =>
    simp only [stepThread, hthread, Option.some.injEq] at h
    subst h
    refine hs.posts (by rw [hthread]; rfl) (.inl rfl) ?_ ?_ ?_ ?_ <;>
      simp_all [ThreadPoint.holdsLogger]
  | postFailed =>
    simp only [stepThread, hthread, Option.some.injEq] at h
    subst h
    refine hs.posts (by rw [hthread]; rfl) (.inr rfl) ?_ ?_ ?_ ?_ <;>
      simp_all [ThreadPoint.holdsLogger]
  | openFile =>
    simp only [stepThread, hthread, Option.some.injEq] at h
    subst h
    repeat' split
    all_goals
      refine hs.moves ?_ ?_ ?_ ?_ ?_ <;>
        simp_all [ThreadPoint.stage, ThreadPoint.holdsLogger] <;> omega
  | openQueue | loop =>
    simp only [stepThread, hthread, Option.some.injEq] at h
    subst h
    split
    all_goals
      first | exact hs | refine hs.moves ?_ ?_ ?_ ?_ ?_ <;>
        simp_all [ThreadPoint.stage, ThreadPoint.holdsLogger]
  | setReady | setFailed | setThrown =>
    simp only [stepThread, hthread, Option.some.injEq] at h
    subst h
    refine hs.moves ?_ ?_ ?_ ?_ ?_ <;>
      simp_all [ThreadPoint.stage, ThreadPoint.holdsLogger]

/-- `pInitImpl` goes on, and at most the semaphores have changed. -/
theorem Coordinated.goes (hs : s.Coordinated env) {point : InitPoint} {initSem : InitSemaphore}
    {lock pauseValue : ℕ}
    (hsync : Handshake (!s.calls.isEmpty) initSem s.thread.stage point)
    (hdata : point.published = true → s.point.published = true)
    (hpause : point.pastPause = true → s.point.pastPause = true)
    (hpast : s.point.pastPause = true ∨ s.point = .failed →
      point.pastPause = true ∨ point = .failed)
    (hcreated : CreatesInOrder s.created s.point → CreatesInOrder s.created point) :
    Coordinated env { s with
      point := point, initSem := initSem, lock := lock, pauseValue := pauseValue } :=
  { hs with
    handshake := hsync
    data := fun h => hs.data (h.imp_right hdata)
    pauseSet := fun h => hs.pauseSet (hpause h)
    pastPause := fun h => hpast (hs.pastPause h)
    created := hcreated hs.created }

theorem Coordinated.init (hs : s.Coordinated env) (hcalls : s.calls = [])
    (h : s.stepInit env = some t) : t.Coordinated env := by
  have hsync := hs.handshake
  simp only [hcalls, List.isEmpty_nil, Bool.not_true] at hsync
  cases hpoint : s.point with
  | install rest =>
    cases rest <;> simp only [stepInit, hpoint, Option.some.injEq] at h <;> subst h
    all_goals
      refine hs.goes ?_ ?_ ?_ ?_ ?_ <;>
        simp_all [Handshake, InitPoint.published, InitPoint.pastPause, CreatesInOrder]
  | create rest =>
    cases rest <;> simp only [stepInit, hpoint, Option.some.injEq, reduceCtorEq] at h
    subst h
    refine hs.goes ?_ ?_ ?_ ?_ ?_ <;>
      simp_all [Handshake, InitPoint.published, InitPoint.pastPause, CreatesInOrder]
  | createThread =>
    simp only [stepInit, hpoint, Option.some.injEq] at h
    subst h
    rw [hpoint] at hsync
    have habsent := ThreadPoint.stage_eq_absent.mp hsync.2
    have hnone (hne : s.created ≠ []) : False := by simpa [hsync.2] using hs.ready hne
    exact { hs with
      handshake := .inl ⟨hsync.1, .inr rfl⟩
      status := fun h => by simpa [habsent] using hs.status h
      allFiles := by simp [ThreadPoint.holdsLogger]
      queue := by simp [ThreadPoint.holdsLogger]
      ready := fun hne => (hnone hne).elim
      data := fun h => h.elim (fun hne => (hnone hne).elim) (by simp [InitPoint.published])
      pauseSet := by simp [InitPoint.pastPause]
      pastPause := fun h => by simpa [hpoint, InitPoint.pastPause] using hs.pastPause h
      created := by simpa [hpoint, CreatesInOrder] using hs.created }
  | opening p =>
    simp only [stepInit, hpoint, Option.map_eq_some_iff] at h
    obtain ⟨⟨q, isOpen, lock⟩, hstep, rfl⟩ := h
    rw [hpoint] at hsync
    cases p with
    | executing =>
      obtain rfl : q = some .leaving := by simp_all [LockPoint.step]
      have hcreated := hs.created
      rw [hpoint] at hcreated
      exact { hs with
        handshake := hsync
        data := fun _ => ⟨rfl, rfl⟩
        pauseSet := by simp [InitPoint.pastPause]
        pastPause := fun h => by simpa [hpoint, InitPoint.pastPause] using hs.pastPause h
        created := hcreated }
    | acquire =>
      have hq : q = some .executing ∨ q = some .blocked := by grind [LockPoint.step]
      obtain rfl | rfl := hq <;> refine hs.goes hsync ?_ ?_ ?_ ?_ <;>
        simp_all [InitPoint.published, InitPoint.pastPause, CreatesInOrder]
    | blocked =>
      obtain rfl : q = some .executing := by grind [LockPoint.step]
      refine hs.goes hsync ?_ ?_ ?_ ?_ <;>
        simp_all [InitPoint.published, InitPoint.pastPause, CreatesInOrder]
    | leaving =>
      obtain rfl : q = none := by grind [LockPoint.step]
      refine hs.goes hsync ?_ ?_ ?_ ?_ <;>
        simp_all [InitPoint.published, InitPoint.pastPause, CreatesInOrder]
  | getPause =>
    simp only [stepInit, hpoint, Option.some.injEq] at h
    subst h
    have hcreated := hs.created
    rw [hpoint] at hsync hcreated
    exact { hs with
      handshake := hsync
      data := fun _ => hs.data (.inr (by rw [hpoint]; rfl))
      pauseSet := fun _ => rfl
      pastPause := fun _ => .inl rfl
      created := congrArg (· ++ childPrograms) hcreated
      early := fun h => by cases h }
  | testStatus =>
    simp only [stepInit, hpoint, Option.some.injEq] at h
    subst h
    rw [hpoint] at hsync
    obtain ⟨hdestroyed, hposted⟩ := hsync
    by_cases hfailed : s.loggerStatus < 1
    · rw [if_pos hfailed]
      refine hs.goes (.inr ⟨hdestroyed, hposted⟩) ?_ ?_ ?_ ?_ <;>
        simp_all [InitPoint.published, InitPoint.pastPause, CreatesInOrder]
    · have hstarted : s.thread.stage = .started := by
        obtain hthread | hthread | hthread := hs.status (by omega)
        · simp [hthread, ThreadPoint.stage] at hposted
        · rw [hthread, ThreadPoint.stage]
        · rw [hthread, ThreadPoint.stage]
      rw [if_neg hfailed]
      refine hs.goes ⟨hdestroyed, hstarted⟩ ?_ ?_ ?_ ?_ <;>
        simp_all [InitPoint.published, InitPoint.pastPause, CreatesInOrder]
  | semWait =>
    rw [hpoint] at hsync
    simp only [stepInit, hpoint] at h
    obtain ⟨hlive, hwait⟩ | ⟨hlive, hposted⟩ := hsync
    · simp only [hlive, Option.some.injEq] at h
      subst h
      refine hs.goes (.inl ⟨rfl, hwait⟩) ?_ ?_ ?_ ?_ <;>
        simp_all [InitPoint.published, InitPoint.pastPause, CreatesInOrder]
    · simp only [hlive, Option.some.injEq] at h
      subst h
      refine hs.goes (.inr ⟨rfl, hposted⟩) ?_ ?_ ?_ ?_ <;>
        simp_all [InitPoint.published, InitPoint.pastPause, CreatesInOrder]
  | semBlocked =>
    rw [hpoint] at hsync
    simp only [stepInit, hpoint] at h
    obtain ⟨hlive, -⟩ | ⟨hlive, hposted⟩ := hsync
    · simp [hlive] at h
    · simp only [hlive, Option.some.injEq] at h
      subst h
      refine hs.goes (.inr ⟨rfl, hposted⟩) ?_ ?_ ?_ ?_ <;>
        simp_all [InitPoint.published, InitPoint.pastPause, CreatesInOrder]
  | semDestroy =>
    rw [hpoint] at hsync
    obtain ⟨hfalse, -⟩ | ⟨hlive, hposted⟩ := hsync
    · cases hfalse
    · simp only [stepInit, hpoint, hlive, Option.some.injEq] at h
      subst h
      refine hs.goes ⟨rfl, hposted⟩ ?_ ?_ ?_ ?_ <;>
        simp_all [InitPoint.published, InitPoint.pastPause, CreatesInOrder]
  | initialised | failed => simp [stepInit, hpoint] at h
  | ignoreChildren | semInit | signalLoops | openPause =>
    simp only [stepInit, hpoint, Option.some.injEq] at h
    subst h
    refine hs.goes ?_ ?_ ?_ ?_ ?_ <;>
      simp_all [Handshake, InitPoint.published, InitPoint.pastPause, CreatesInOrder]

/-- A handler that runs before `m_pauseSemaphore` is set does not come back. -/
theorem stepCall_early {c : SignalCall} {rest : List SignalCall} (hearly : s.pauseSet = false)
    (hc : c.point ≠ .setPaused) (h : s.stepCall c rest = some t) :
    t.died = true ∧ t.calls = s.calls ∨
      t.calls ≠ [] ∧ ∀ d ∈ t.calls, d ∈ rest ∨ d.point ≠ .setPaused := by
  unfold stepCall at h
  split at h
  · obtain rfl := Option.some.inj h
    exact .inl ⟨rfl, rfl⟩
  · rename_i hpause
    obtain ⟨m, hm, rfl⟩ := Option.map_eq_some_iff.mp h
    right
    unfold Manager.stepCall at hm
    cases hpoint : c.point with
    | critical p =>
      simp only [hpoint, Option.map_eq_some_iff] at hm
      obtain ⟨⟨q, isOpen, lock⟩, -, rfl⟩ := hm
      cases q <;> grind
    | setPaused => exact absurd hpoint hc
    | openPause | closePause | resumePause =>
      simp [hpoint, CallPoint.usesPause, hearly] at hpause
    | _ =>
      simp only [hpoint, Option.some.injEq] at hm
      subst hm
      grind

theorem Coordinated.call (hs : s.Coordinated env) {c : SignalCall} {rest : List SignalCall}
    (hcalls : s.calls = c :: rest) (h : s.stepCall c rest = some t) : t.Coordinated env := by
  have hhandler : Handshake (!t.calls.isEmpty) s.initSem s.thread.stage s.point ∧
      (s.pauseSet = false → ∀ d ∈ t.calls, d.point ≠ .setPaused) := by
    have hsync := hs.handshake
    rw [hcalls, List.isEmpty_cons, Bool.not_false] at hsync
    cases hpause : s.pauseSet with
    | false =>
      have hold := (hs.early hpause).2
      obtain ⟨-, hkeep⟩ | ⟨hne, hnew⟩ := stepCall_early hpause (hold c (by simp [hcalls])) h
      · rw [hkeep, hcalls]
        exact ⟨hsync, fun _ => hcalls ▸ hold⟩
      · refine ⟨?_, fun _ d hd => (hnew d hd).elim (fun hmem => hold d (by simp [hcalls, hmem])) id⟩
        rwa [List.isEmpty_eq_false_iff.mpr hne]
    | true =>
      refine ⟨?_, fun hfalse => by cases hfalse⟩
      obtain hpast | hfailed := hs.pastPause hpause
      · cases hpoint : s.point <;> simp_all [InitPoint.pastPause, Handshake]
      · simpa [hfailed, Handshake] using hsync
  unfold stepCall at h
  split at h
  · obtain rfl := Option.some.inj h
    exact { hs with }
  · obtain ⟨m, -, rfl⟩ := Option.map_eq_some_iff.mp h
    exact { hs with
      handshake := hhandler.1
      early := fun hearly => ⟨(hs.early hearly).1, hhandler.2 hearly⟩ }

theorem interrupted_setPaused {calls : List SignalCall}
    (h : ∀ c ∈ calls, c.point ≠ .setPaused) (signal : ManagerSignal) :
    ∀ c ∈ ⟨signal, signal.entry⟩ :: calls.modifyHead SignalCall.interrupted,
      c.point ≠ .setPaused := by
  intro c hc
  obtain rfl | hc := List.mem_cons.mp hc
  · cases signal <;> simp [ManagerSignal.entry]
  · cases calls with
    | nil => simp at hc
    | cons d rest =>
      simp only [List.modifyHead_cons, List.mem_cons] at hc
      obtain rfl | hc := hc
      · have hd := h d List.mem_cons_self
        unfold SignalCall.interrupted
        split
        · simp
        · exact hd
      · exact h c (List.mem_cons_of_mem d hc)

theorem Coordinated.deliver (hs : s.Coordinated env) (signal : ManagerSignal) :
    (s.deliver signal).Coordinated env := by
  have hearly (h : s.pauseSet = false) := interrupted_setPaused (hs.early h).2 signal
  obtain ⟨hsync, hinterrupted⟩ := Handshake.interrupt hs.handshake
  unfold Startup.deliver
  split
  · split
    · exact { hs with }
    · exact { hs with
        handshake := hsync
        early := fun h => ⟨(hs.early h).1, hearly h⟩ }
  · split
    · refine { hs with
        handshake := hinterrupted
        early := fun h => ⟨(hs.early h).1, hearly h⟩
        data := (interrupted_published s.point).symm ▸ hs.data
        pauseSet := (interrupted_pastPause s.point).symm ▸ hs.pauseSet
        pastPause := fun h => ?_
        created := (interrupted_createsInOrder s.point s.created).mpr hs.created }
      refine (hs.pastPause h).imp (interrupted_pastPause s.point).trans fun hfailed => ?_
      simp [hfailed, InitPoint.interrupted]
    · exact { hs with
        handshake := hsync
        early := fun h => ⟨(hs.early h).1, hearly h⟩ }

theorem Coordinated.step (hs : s.Coordinated env) {a : StartupAction}
    (h : s.step env a = some t) : t.Coordinated env := by
  simp only [Startup.step, Option.ite_none_left_eq_some] at h
  obtain ⟨-, h⟩ := h
  cases a with
  | main =>
    cases hcalls : s.calls with
    | nil =>
      simp only [hcalls] at h
      exact hs.init hcalls h
    | cons c rest =>
      simp only [hcalls] at h
      exact hs.call hcalls h
  | throws =>
    simp only [Option.ite_none_right_eq_some, Option.some.injEq] at h
    obtain ⟨⟨hcalls, hthrow⟩, rfl⟩ := h
    have hsync := hs.handshake
    refine hs.goes ?_ nofun nofun (fun _ => .inr rfl) CreatesInOrder.isPrefix
    cases hpoint : s.point with
    | install rest | ignoreChildren | semInit =>
      rw [hpoint] at hsync
      exact .inl hsync
    | create rest =>
      rw [hpoint] at hsync
      exact .inr ⟨hsync.1, .inl hsync.2⟩
    | _ => simp [hpoint, InitPoint.mayThrow] at hthrow
  | threadFails =>
    simp only [Option.ite_none_right_eq_some, Option.some.injEq] at h
    obtain ⟨⟨hcalls, hpoint⟩, rfl⟩ := h
    have hsync := hs.handshake
    rw [hpoint] at hsync
    refine hs.goes (.inl ⟨hsync.1, .inl hsync.2⟩) nofun nofun ?_ ?_
    · simp [hpoint, InitPoint.pastPause]
    · simp [hpoint, CreatesInOrder]
  | fork pid =>
    cases hpoint : s.point with
    | create rest =>
      cases rest with
      | nil => simp [hpoint] at h
      | cons program rest =>
        simp only [hpoint, Option.ite_none_right_eq_some, Option.some.injEq] at h
        obtain ⟨-, rfl⟩ := h
        have hsync := hs.handshake
        have hcreated := hs.created
        have hpause := hs.pauseSet (by rw [hpoint]; rfl)
        rw [hpoint] at hsync hcreated
        exact { hs with
          handshake := hsync
          ready := fun _ => hsync.2
          data := fun _ => hs.data (.inr (by rw [hpoint]; rfl))
          pauseSet := fun _ => hpause
          pastPause := fun _ => .inl rfl
          created := (List.append_assoc _ _ _).trans hcreated
          early := fun h => by simp [hpause] at h }
    | _ => simp [hpoint] at h
  | thread succeeds => exact hs.thread h
  | deliver signal =>
    simp only [Option.ite_none_left_eq_some, Option.some.injEq] at h
    exact h.2 ▸ hs.deliver signal
  | exits pid =>
    simp only [Option.ite_none_right_eq_some, Option.some.injEq] at h
    obtain ⟨-, rfl⟩ := h
    exact { hs with }
  | others lock =>
    obtain rfl := Option.some.inj h
    exact { hs with }

end Startup

/-! ## Runs of the startup -/

/-- The steps of the thread so far, whether a signal has been delivered, and whether one has been
before `m_pauseSemaphore` was set. -/
structure StartupHistory where
  threadSteps : ℕ
  signalled : Bool
  early : Bool

namespace Startup

def record (h : StartupHistory) (s : Startup) (a : StartupAction) (_ : Startup) : StartupHistory :=
  match a with
  | .thread _ => { h with threadSteps := h.threadSteps + 1 }
  | .deliver _ => { h with signalled := true, early := h.early || !s.pauseSet }
  | _ => h

def startupMachine (env : StartupSetting) : Machine (Startup × StartupHistory) StartupAction :=
  (machine env).observe record

/-- An upper bound of the steps of the thread up to its `sem_post`. -/
def threadLeft (s : Startup) : ℕ :=
  match s.thread with
  | .openFile => logFileCount - s.openFiles + 4
  | .openQueue => 3
  | .setReady | .setFailed => 2
  | .postReady | .postFailed => 1
  | _ => 0

/-- What the history says about the state. -/
structure Recorded (x : Startup × StartupHistory) : Prop where
  notStarted : x.1.thread = .absent → x.2.threadSteps = 0
  pending : x.1.thread.stage = .pending → x.2.threadSteps + x.1.threadLeft ≤ logFileCount + 4
  early : x.2.early = true → x.1.pauseSet = false ∧ (x.1.died = true ∨ x.1.calls ≠ [])
  quiet : x.2.signalled = false → x.1.calls = [] ∧ x.1.paused = false ∧
    (x.1.point.published = true → x.1.isOpen = true) ∧
    (x.1.point = .initialised → x.1.pauseValue = 1)

theorem recorded_begin : Recorded (begin, ⟨0, false, false⟩) where
  notStarted _ := rfl
  pending h := by simp [begin, ThreadPoint.stage] at h
  early h := by cases h
  quiet _ := ⟨rfl, rfl, fun h => by simp [begin, InitPoint.published] at h,
    fun h => by simp [begin] at h⟩

variable {env : StartupSetting}

/-- What the thread leaves alone. -/
theorem stepThread_frame {s t : Startup} {succeeds : Bool}
    (h : s.stepThread env succeeds = some t) : t.thread ≠ .absent ∧ t.died = s.died ∧
      t.calls = s.calls ∧ t.pauseSet = s.pauseSet ∧ t.paused = s.paused ∧ t.point = s.point ∧
      t.isOpen = s.isOpen ∧ t.pauseValue = s.pauseValue := by
  unfold stepThread post returned at h
  repeat' split at h
  all_goals cases h
  all_goals simp_all

/-- Every step on the way to the `sem_post` is one step less. -/
theorem threadLeft_stepThread {s t : Startup} {succeeds : Bool}
    (h : s.stepThread env succeeds = some t) (hpending : t.thread.stage = .pending) :
    s.thread.stage = .pending ∧ t.threadLeft + 1 ≤ s.threadLeft := by
  unfold stepThread at h
  repeat' split at h
  all_goals cases h
  all_goals simp_all [ThreadPoint.stage, threadLeft, returned] <;> omega

theorem Recorded.thread {s t : Startup} {r : StartupHistory} (hx : Recorded (s, r))
    {succeeds : Bool} (h : s.stepThread env succeeds = some t) :
    Recorded (t, { r with threadSteps := r.threadSteps + 1 }) := by
  obtain ⟨habsent, hdied, hcalls, hpause, hpaused, hpoint, hopen, hvalue⟩ := stepThread_frame h
  constructor
  · exact fun hthread => absurd hthread habsent
  · intro hpending
    obtain ⟨hs, hleft⟩ := threadLeft_stepThread h hpending
    have hbound := hx.pending hs
    dsimp only at hbound ⊢
    omega
  · dsimp only
    rw [hdied, hcalls, hpause]
    exact hx.early
  · dsimp only
    rw [hcalls, hpaused, hpoint, hopen, hvalue]
    exact hx.quiet

/-- A step of `pInitImpl` that neither starts the thread nor changes what the handlers change. -/
theorem Recorded.goes {s t : Startup} {r : StartupHistory} (hx : Recorded (s, r))
    (hlate : r.early = false) (hthread : t.thread = s.thread) (hfiles : t.openFiles = s.openFiles)
    (hcalls : t.calls = s.calls) (hpaused : t.paused = s.paused)
    (hopen : t.point.published = true → s.point.published = true ∧ t.isOpen = s.isOpen ∨
      t.isOpen = true)
    (hvalue : t.point = .initialised → t.pauseValue = 1) : Recorded (t, r) where
  notStarted h := hx.notStarted (hthread.symm.trans h)
  pending h := by
    rw [hthread] at h
    have hleft : t.threadLeft = s.threadLeft := by rw [threadLeft, hthread, hfiles, threadLeft]
    exact hleft ▸ hx.pending h
  early h := by
    rw [hlate] at h
    cases h
  quiet hq := by
    obtain ⟨hnone, hnot, hold, -⟩ := hx.quiet hq
    refine ⟨hcalls.trans hnone, hpaused.trans hnot, fun h => ?_, hvalue⟩
    obtain ⟨hpublished, hkeep⟩ | hopen := hopen h
    · exact hkeep.trans (hold hpublished)
    · exact hopen

theorem Recorded.init {s t : Startup} {r : StartupHistory} (hx : Recorded (s, r))
    (hs : s.Coordinated env) (hlive : ¬ s.died = true) (hcalls : s.calls = [])
    (h : s.stepInit env = some t) : Recorded (t, r) := by
  have hlate : r.early = false := by
    by_contra he
    obtain ⟨-, hdied | hne⟩ := hx.early (Bool.not_eq_false _ ▸ he)
    · exact hlive hdied
    · exact hne hcalls
  cases hpoint : s.point with
  | createThread =>
    have hsync := hs.handshake
    rw [hpoint] at hsync
    have hzero := hx.notStarted (ThreadPoint.stage_eq_absent.mp hsync.2)
    simp only [stepInit, hpoint, Option.some.injEq] at h
    subst h
    refine ⟨nofun, fun _ => ?_, fun he => by simp [hlate] at he, fun hq => ?_⟩
    · simp only [threadLeft] at hzero ⊢
      omega
    · exact ⟨hcalls, (hx.quiet hq).2.1, by simp [InitPoint.published], by simp⟩
  | opening p =>
    simp only [stepInit, hpoint, Option.map_eq_some_iff] at h
    obtain ⟨⟨q, isOpen, lock⟩, hstep, rfl⟩ := h
    cases p with
    | executing => exact hx.goes hlate rfl rfl rfl rfl (fun _ => .inr rfl) (by cases q <;> nofun)
    | leaving =>
      exact hx.goes hlate rfl rfl rfl rfl (fun _ => .inl ⟨by rw [hpoint]; rfl, rfl⟩)
        (by cases q <;> nofun)
    | acquire =>
      have hq : q = some .executing ∨ q = some .blocked := by grind [LockPoint.step]
      obtain rfl | rfl := hq <;> exact hx.goes hlate rfl rfl rfl rfl nofun nofun
    | blocked =>
      obtain rfl : q = some .executing := by grind [LockPoint.step]
      exact hx.goes hlate rfl rfl rfl rfl nofun nofun
  | install rest =>
    cases rest <;> simp only [stepInit, hpoint, Option.some.injEq] at h <;> subst h
    · exact hx.goes hlate rfl rfl rfl rfl nofun nofun
    · exact hx.goes hlate rfl rfl rfl rfl nofun nofun
  | create rest =>
    cases rest <;> simp only [stepInit, hpoint, Option.some.injEq, reduceCtorEq] at h
    subst h
    exact hx.goes hlate rfl rfl rfl rfl (fun _ => .inl ⟨by rw [hpoint]; rfl, rfl⟩) nofun
  | getPause | signalLoops =>
    simp only [stepInit, hpoint, Option.some.injEq] at h
    subst h
    exact hx.goes hlate rfl rfl rfl rfl (fun _ => .inl ⟨by rw [hpoint]; rfl, rfl⟩) nofun
  | openPause =>
    simp only [stepInit, hpoint, Option.some.injEq] at h
    subst h
    exact hx.goes hlate rfl rfl rfl rfl (fun _ => .inl ⟨by rw [hpoint]; rfl, rfl⟩) fun _ => rfl
  | testStatus =>
    simp only [stepInit, hpoint, Option.some.injEq] at h
    subst h
    refine hx.goes hlate rfl rfl rfl rfl ?_ ?_ <;> dsimp only <;> split <;> nofun
  | semWait | semBlocked | semDestroy =>
    simp only [stepInit, hpoint] at h
    split at h <;> cases h
    all_goals exact hx.goes hlate rfl rfl rfl rfl nofun nofun
  | initialised | failed => simp [stepInit, hpoint] at h
  | ignoreChildren | semInit =>
    simp only [stepInit, hpoint, Option.some.injEq] at h
    subst h
    exact hx.goes hlate rfl rfl rfl rfl nofun nofun

theorem Recorded.call {s t : Startup} {r : StartupHistory} (hx : Recorded (s, r))
    (hs : s.Coordinated env) {c : SignalCall} {rest : List SignalCall}
    (hcalls : s.calls = c :: rest) (h : s.stepCall c rest = some t) : Recorded (t, r) := by
  obtain ⟨hnot, hpending, hearly, hquiet⟩ := hx
  have hloud (hq : r.signalled = false) : False := by
    have hnone := (hquiet hq).1
    simp only [hcalls, reduceCtorEq] at hnone
  have hdown (hpause : s.pauseSet = false) : t.died = true ∨ t.calls ≠ [] :=
    (stepCall_early hpause ((hs.early hpause).2 c (by simp [hcalls])) h).imp And.left And.left
  unfold stepCall at h
  split at h
  · obtain rfl := Option.some.inj h
    exact ⟨hnot, hpending, fun he => ⟨(hearly he).1, .inl rfl⟩, fun hq => (hloud hq).elim⟩
  · obtain ⟨m, -, rfl⟩ := Option.map_eq_some_iff.mp h
    exact ⟨hnot, hpending, fun he => ⟨(hearly he).1, hdown (hearly he).1⟩,
      fun hq => (hloud hq).elim⟩

theorem Recorded.deliver {s : Startup} {r : StartupHistory} (hx : Recorded (s, r))
    (signal : ManagerSignal) : Recorded (s.deliver signal,
      { r with signalled := true, early := r.early || !s.pauseSet }) := by
  obtain ⟨hnot, hpending, hearly, -⟩ := hx
  have hpause (he : (r.early || !s.pauseSet) = true) : s.pauseSet = false := by
    rw [Bool.or_eq_true, Bool.not_eq_true'] at he
    exact he.elim (fun h => (hearly h).1) id
  unfold Startup.deliver
  split
  · split
    · exact ⟨hnot, hpending, fun he => ⟨hpause he, .inl rfl⟩, fun hq => by cases hq⟩
    · exact ⟨hnot, hpending, fun he => ⟨hpause he, .inr (List.cons_ne_nil _ _)⟩,
        fun hq => by cases hq⟩
  · exact ⟨hnot, hpending, fun he => ⟨hpause he, .inr (List.cons_ne_nil _ _)⟩,
      fun hq => by cases hq⟩

theorem Recorded.step {x y : Startup × StartupHistory} {a : StartupAction} (hx : Recorded x)
    (hs : x.1.Coordinated env) (h : (startupMachine env).step x a = some y) : Recorded y := by
  obtain ⟨s, r⟩ := x
  obtain ⟨t, q⟩ := y
  obtain ⟨hstep, hrecord⟩ := Machine.observe_step.mp h
  change s.step env a = some t at hstep
  change record r s a t = q at hrecord
  subst hrecord
  simp only [Startup.step, Option.ite_none_left_eq_some] at hstep
  obtain ⟨hlive, hstep⟩ := hstep
  have hlate (hcalls : s.calls = []) (he : r.early = true) : False := by
    obtain ⟨-, hdied | hne⟩ := hx.early he
    · exact hlive hdied
    · exact hne hcalls
  cases a with
  | thread succeeds => exact hx.thread hstep
  | main =>
    cases hcalls : s.calls with
    | nil =>
      simp only [hcalls] at hstep
      exact hx.init hs hlive hcalls hstep
    | cons c rest =>
      simp only [hcalls] at hstep
      exact hx.call hs hcalls hstep
  | throws =>
    simp only [Option.ite_none_right_eq_some, Option.some.injEq] at hstep
    obtain ⟨⟨hcalls, -⟩, rfl⟩ := hstep
    exact ⟨hx.notStarted, hx.pending, fun he => (hlate hcalls he).elim, fun hq =>
      ⟨(hx.quiet hq).1, (hx.quiet hq).2.1, by simp [InitPoint.published], by simp⟩⟩
  | threadFails =>
    simp only [Option.ite_none_right_eq_some, Option.some.injEq] at hstep
    obtain ⟨⟨hcalls, -⟩, rfl⟩ := hstep
    exact ⟨hx.notStarted, hx.pending, fun he => (hlate hcalls he).elim, fun hq =>
      ⟨(hx.quiet hq).1, (hx.quiet hq).2.1, by simp [InitPoint.published], by simp⟩⟩
  | fork pid =>
    cases hpoint : s.point with
    | create rest =>
      cases rest with
      | nil => simp [hpoint] at hstep
      | cons program rest =>
        simp only [hpoint, Option.ite_none_right_eq_some, Option.some.injEq] at hstep
        obtain ⟨⟨hcalls, -⟩, rfl⟩ := hstep
        exact ⟨hx.notStarted, hx.pending, fun he => (hlate hcalls he).elim, fun hq =>
          ⟨(hx.quiet hq).1, (hx.quiet hq).2.1,
            fun _ => (hx.quiet hq).2.2.1 (by simp [hpoint, InitPoint.published]), by simp⟩⟩
    | _ => simp [hpoint] at hstep
  | deliver signal =>
    simp only [Option.ite_none_left_eq_some, Option.some.injEq] at hstep
    exact hstep.2 ▸ hx.deliver signal
  | exits pid =>
    simp only [Option.ite_none_right_eq_some, Option.some.injEq] at hstep
    obtain ⟨-, rfl⟩ := hstep
    exact ⟨hx.notStarted, hx.pending, hx.early, hx.quiet⟩
  | others lock =>
    obtain rfl := Option.some.inj hstep
    exact ⟨hx.notStarted, hx.pending, hx.early, hx.quiet⟩

/-- The children start in order, and find the logger at work and its address in the shared data;
the semaphore of the handshake is only used while it exists; `sem_wait` blocks for good only if the
thread could not be created; a signal that the manager's thread handles too early keeps the park
from opening; without signals the manager comes to the begin of `Run` as it should. -/
structure Prepared (env : StartupSetting) (x : Startup × StartupHistory) : Prop where
  order : x.1.created.IsPrefix childPrograms ∧
    (x.1.point = .initialised → x.1.created = childPrograms)
  logger : x.1.created ≠ [] → x.1.thread.stage = .started ∧
    (x.1.thread ≠ .thrown → x.1.openFiles = logFileCount ∧ x.1.queue = some x.1.mainPID)
  data : x.1.created ≠ [] → x.1.mainPID = env.pid ∧ x.1.parkSize = env.parkSize ∧
    x.1.pauseSet = true
  semaphore : x.1.misused = false
  waits : x.1.point = .semBlocked → (∃ value, x.1.initSem = .live (value + 1)) ∨
    x.1.thread = .absent ∨ x.2.threadSteps < logFileCount + 4 ∧
      ∀ succeeds, (x.1.stepThread env succeeds).isSome = true
  early : x.2.early = true → x.1.created = [] ∧ x.1.point ≠ .initialised
  quiet : x.2.signalled = false → x.1.point = .initialised →
    x.1.manager = .started x.1.lock x.1.children

theorem waits_of_recorded {x : Startup × StartupHistory} (hs : x.1.Coordinated env)
    (hx : Recorded x) (hpoint : x.1.point = .semBlocked) :
    (∃ value, x.1.initSem = .live (value + 1)) ∨ x.1.thread = .absent ∨
      x.2.threadSteps < logFileCount + 4 ∧
        ∀ succeeds, (x.1.stepThread env succeeds).isSome = true := by
  have hsync := hs.handshake
  rw [hpoint] at hsync
  obtain ⟨-, habsent | hpending⟩ | ⟨hlive, -⟩ := hsync
  · exact .inr (.inl (ThreadPoint.stage_eq_absent.mp habsent))
  · refine .inr (.inr ⟨?_, fun succeeds => ?_⟩)
    · have hleft := hx.pending hpending
      cases hthread : x.1.thread <;>
        simp_all [ThreadPoint.stage, threadLeft] <;> omega
    · cases hthread : x.1.thread <;>
        simp_all [ThreadPoint.stage, stepThread]
  · exact .inl ⟨0, hlive⟩

theorem Recorded.prepared {x : Startup × StartupHistory} (hx : Recorded x)
    (hs : x.1.Coordinated env) : Prepared env x where
  order := by
    refine ⟨CreatesInOrder.isPrefix hs.created, fun hpoint => ?_⟩
    have hall := hs.created
    rwa [hpoint] at hall
  logger hne := by
    have hready := hs.ready hne
    refine ⟨hready, fun hthrown => ?_⟩
    have hholds : x.1.thread.holdsLogger = true := by
      cases hthread : x.1.thread <;>
        simp_all [ThreadPoint.stage, ThreadPoint.holdsLogger]
    rw [(hs.data (.inl hne)).1]
    exact ⟨hs.allFiles (.inr hholds), hs.queue hholds⟩
  data hne := by
    obtain ⟨hpid, hsize⟩ := hs.data (.inl hne)
    refine ⟨hpid, hsize, ?_⟩
    by_contra hpause
    exact hne (hs.early (by simpa using hpause)).1
  semaphore := hs.misused
  waits := waits_of_recorded hs hx
  early he := by
    obtain ⟨hpause, -⟩ := hx.early he
    refine ⟨(hs.early hpause).1, fun hpoint => ?_⟩
    have hset := hs.pauseSet (by rw [hpoint]; rfl)
    rw [hpause] at hset
    cases hset
  quiet hq hpoint := by
    obtain ⟨hcalls, hpaused, hopen, hvalue⟩ := hx.quiet hq
    simp only [manager, Manager.started, hcalls, hpaused, hvalue hpoint,
      hopen (by rw [hpoint]; rfl)]

/-- Every run of the startup, with failing calls and with signals to the manager's own thread at any
point. -/
theorem prepared_always (env : StartupSetting) (as : List StartupAction) :
    (startupMachine env).Always (Prepared env) (begin, ⟨0, false, false⟩) as := by
  apply Machine.always_of_invariant (I := fun x => x.1.Coordinated env ∧ Recorded x)
  · exact fun x hx => hx.2.prepared hx.1
  · exact fun x a y hx h => ⟨hx.1.step (Machine.observe_step.mp h).1, hx.2.step hx.1 h⟩
  · exact ⟨coordinated_begin, recorded_begin⟩

/-- A startup without signals in which no call fails. -/
example : ((machine ⟨100, 320⟩).exec begin (List.replicate 9 .main ++
    List.replicate 9 (.thread true) ++ List.replicate 7 .main ++
      (List.range 18).map (fun k => .fork (101 + k)) ++ List.replicate 3 .main)).map (·.point) =
    some .initialised :=
  rfl

end Startup
end AmusementPark.Main
