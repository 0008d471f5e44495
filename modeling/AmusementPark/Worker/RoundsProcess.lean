import AmusementPark.Worker.RoundsProgram
import AmusementPark.Worker.HeldHandlers

/-! # A worker process from its start to its end

`Process::Close` runs `pCloseImpl` and then drops the semaphore array, also when
`pCloseImpl` throws. The process object is static: the handlers it still holds
die after the array. Clients wait on the leave semaphores at any time.
-/
namespace AmusementPark.Worker
open Library

/-- `running` lasts until `pCloseImpl` has done its work or was left by an exception. -/
inductive Phase where
  | running
  | closed
  | arrayDropped
  | exited
deriving DecidableEq

/-- A process with its semaphore array still alive. -/
def Phase.alive : Phase → Bool
  | .running | .closed => true
  | _ => false

structure RoundsProcess (σ : Type*) where
  worker : σ
  objects : ℕ → LeaveSemaphore
  phase : Phase

/-- A process before `Run`, on leave semaphores with any values. -/
def RoundsProcess.launch {σ : Type*} (s : σ) (values : ℕ → ℕ) : RoundsProcess σ :=
  ⟨s, fun id => .unused (values id), .running⟩

/-- `pCloseThrows` is an exception that leaves `pCloseImpl` before it has closed the handlers, as
one from the log message of a signal handler. -/
inductive ProcessAction (α : Type*) where
  | run (a : α)
  | wait (id : ℕ)
  | pCloseImpl
  | pCloseThrows
  | dropArray
  | destroyStatics

def ProcessAction.interruptsClose {α : Type*} : ProcessAction α → Bool
  | .pCloseThrows => true
  | _ => false

namespace RoundsProgram
variable {σ α : Type*} (W : RoundsProgram σ α)

/-- A step of the process; the calls on handlers take place along with the worker's own step. -/
def processStep (P : RoundsProcess σ) : ProcessAction α → Option (RoundsProcess σ)
  | .run a => if P.phase.alive = true ∧ (W.rounds P.worker).stage ≠ .crashed then
      (W.machine.step P.worker a).bind fun t =>
        (callAll P.objects (W.calls P.worker a)).map fun objects => ⟨t, objects, P.phase⟩
    else none
  | .wait id => (P.objects id).wait.map fun S =>
      { P with objects := Function.update P.objects id S }
  | .pCloseImpl => if P.phase = .running ∧ (W.rounds P.worker).stage = .stopped then
      (callAll P.objects (W.closeCalls P.worker)).map fun objects =>
        ⟨W.pCloseImpl P.worker, objects, .closed⟩
    else none
  | .pCloseThrows => if P.phase = .running ∧ (W.rounds P.worker).stage = .stopped then
      some { P with phase := .closed } else none
  | .dropArray => if P.phase = .closed then some { P with phase := .arrayDropped } else none
  | .destroyStatics => if P.phase = .arrayDropped then
      -- the destructors call ReleaseClients through an array that is gone
      some { P with objects := fun id => { P.objects id with handler := none }, phase := .exited }
    else none

def process : Machine (RoundsProcess σ) (ProcessAction α) := ⟨W.processStep⟩

theorem dropArray_eq_some {P Q : RoundsProcess σ} : W.processStep P .dropArray = some Q ↔
    P.phase = .closed ∧ { P with phase := .arrayDropped } = Q := by
  simp [processStep]

/-- While a handler has not been released its leave semaphore is 0 and holds its clients back,
the handlers on the semaphores are those the worker holds, and neither a step of the worker nor
its `pCloseImpl` is ever blocked by a call on a handler. -/
structure LeavesOnRelease (P : RoundsProcess σ) : Prop where
  zero : ∀ id h, (P.objects id).handler = some h → h.released = false → (P.objects id).value = 0
  waits : ∀ id h, (P.objects id).handler = some h → h.released = false →
    W.processStep P (.wait id) = none
  holds : P.phase.alive = true → (W.rounds P.worker).stage ≠ .crashed →
    (W.rounds P.worker).Holds P.objects
  runs : P.phase.alive = true → (W.rounds P.worker).stage ≠ .crashed →
    ∀ a t, W.machine.step P.worker a = some t → (W.processStep P (.run a)).isSome = true
  closes : P.phase = .running → (W.rounds P.worker).stage = .stopped →
    (W.processStep P .pCloseImpl).isSome = true

/-- Once the array is gone every handler ever constructed has run `ReleaseClients`. -/
def ReleasedInTime (P : RoundsProcess σ) : Prop :=
  P.phase.alive = false → ∀ id, (P.objects id).released = (P.objects id).constructed

/-- When the array is dropped, no installed handler is left that has not been released. -/
def DropsReleased (P : RoundsProcess σ) (a : ProcessAction α) : Prop :=
  a = .dropArray → ∀ id h, (W.rounds P.worker).installed id = some h → h.released = true

/-- What every reachable state of a process satisfies. -/
structure Reached (P : RoundsProcess σ) : Prop where
  valid : W.Valid P.worker
  fresh : (W.rounds P.worker).Fresh
  zero : ∀ id h, (P.objects id).handler = some h → h.released = false → (P.objects id).value = 0
  sound : P.phase.alive = true → ∀ id, (P.objects id).Sound
  holds : P.phase.alive = true → (W.rounds P.worker).stage ≠ .crashed →
    (W.rounds P.worker).Holds P.objects
  stopped : P.phase ≠ .running → (W.rounds P.worker).stage = .stopped

variable {W}

theorem Starts.holds {s : σ} (hs : W.Starts s) (values : ℕ → ℕ) :
    (W.rounds s).Holds fun id => .unused (values id) where
  live id _ := by
    have hb : ∀ i h, (W.rounds s).stage ≠ .building i h := by
      intro i h hstage
      obtain hidle | hstopped := hs.stage
      · simp [hidle] at hstage
      · simp [hstopped] at hstage
    rw [Rounds.live_of_not_building hb, hs.installed id]
    rfl
  announced id ha := by
    obtain hidle | hstopped := hs.stage
    · simp [hidle, Stage.announced] at ha
    · simp [hstopped, Stage.announced] at ha

theorem Starts.reached {s : σ} (hs : W.Starts s) (values : ℕ → ℕ) :
    W.Reached (.launch s values) where
  valid := hs.valid
  fresh := hs.fresh
  zero id h hh := by cases hh
  sound _ id := LeaveSemaphore.sound_unused (values id)
  holds _ _ := hs.holds values
  stopped hphase := absurd rfl hphase

/-- The calls of a worker's step. -/
theorem Reached.callsTo {P : RoundsProcess σ} (hP : W.Reached P) (halive : P.phase.alive = true)
    (hcrash : (W.rounds P.worker).stage ≠ .crashed) {kind : Rounds.StepKind}
    {calls : List (ℕ × HandlerCall)} {R : Rounds}
    (h : (W.rounds P.worker).Step W.capacity kind calls R) :
    Rounds.CallsTo P.objects calls R :=
  (hP.holds halive hcrash).step hP.fresh (hP.sound halive) h

theorem Reached.leavesOnRelease {P : RoundsProcess σ} (hP : W.Reached P) :
    W.LeavesOnRelease P where
  zero := hP.zero
  waits id h hh hr := by simp [processStep, LeaveSemaphore.wait, hP.zero id h hh hr]
  holds := hP.holds
  runs halive hcrash a t h := by
    obtain ⟨result, hresult, -⟩ := hP.callsTo halive hcrash (W.step_rounds hP.valid h)
    simp [processStep, halive, hcrash, h, hresult]
  closes hphase hstage := by
    obtain ⟨result, hresult, -⟩ := hP.callsTo (by rw [hphase]; rfl) (by simp [hstage])
      (W.close_rounds hP.valid hstage)
    simp [processStep, hphase, hstage, hresult]

/-- The worker's own steps and its `pCloseImpl` lead to reached states. -/
theorem Reached.of_callsTo {P : RoundsProcess σ} (hP : W.Reached P) {kind : Rounds.StepKind}
    {calls : List (ℕ × HandlerCall)} {t : σ} (ht : W.Valid t) (halive : P.phase.alive = true)
    (hcrash : (W.rounds P.worker).stage ≠ .crashed)
    (h : (W.rounds P.worker).Step W.capacity kind calls (W.rounds t))
    {objects : ℕ → LeaveSemaphore} (hcalls : callAll P.objects calls = some objects)
    {phase : Phase} (hphase : phase ≠ .running → (W.rounds t).stage = .stopped) :
    W.Reached ⟨t, objects, phase⟩ := by
  obtain ⟨result, hresult, hsound, hholds⟩ := hP.callsTo halive hcrash h
  obtain rfl := Option.some.inj (hresult.symm.trans hcalls)
  exact ⟨ht, hP.fresh.step h, fun id k hk hr => (hsound id).zero k hk hr, fun _ => hsound,
    fun _ => hholds, hphase⟩

theorem Reached.wait {P : RoundsProcess σ} (hP : W.Reached P) {id : ℕ} {S : LeaveSemaphore}
    (h : (P.objects id).wait = some S) :
    W.Reached { P with objects := Function.update P.objects id S } := by
  have hwait := h
  simp only [LeaveSemaphore.wait, Option.ite_none_right_eq_some, Option.some.injEq] at h
  obtain ⟨hpos, rfl⟩ := h
  have hhandler (j : ℕ) : (Function.update P.objects id
      { P.objects id with value := (P.objects id).value - 1 } j).handler =
      (P.objects j).handler := by
    by_cases hj : j = id
    · rw [hj, Function.update_self]
    · rw [Function.update_of_ne hj]
  refine ⟨hP.valid, hP.fresh, fun j h hh hr => ?_, fun halive j => ?_, fun halive hcrash => ?_,
    hP.stopped⟩
  · have hzero := hP.zero j h ((hhandler j).symm.trans hh) hr
    by_cases hj : j = id
    · subst hj
      omega
    · exact (congrArg LeaveSemaphore.value (Function.update_of_ne hj _ _)).trans hzero
  · by_cases hj : j = id
    · subst hj
      exact (congrArg LeaveSemaphore.Sound (Function.update_self ..)).mpr
        ((hP.sound halive j).wait hwait)
    · exact (congrArg LeaveSemaphore.Sound (Function.update_of_ne hj _ _)).mpr (hP.sound halive j)
  · have hholds := hP.holds halive hcrash
    exact ⟨fun j hj => (hhandler j).trans (hholds.live j hj), fun j hj => by
      dsimp only
      rw [hhandler j]
      exact hholds.announced j hj⟩

theorem Reached.step {P Q : RoundsProcess σ} {a : ProcessAction α} (hP : W.Reached P)
    (h : W.processStep P a = some Q) : W.Reached Q := by
  cases a with
  | run a =>
    simp only [processStep, Option.ite_none_right_eq_some, Option.bind_eq_some_iff,
      Option.map_eq_some_iff] at h
    obtain ⟨⟨halive, hcrash⟩, t, ht, objects, hcalls, rfl⟩ := h
    have hstep := W.step_rounds hP.valid ht
    exact hP.of_callsTo (W.valid_step hP.valid ht) halive hcrash hstep hcalls
      fun hphase => hstep.stopped (hP.stopped hphase)
  | wait id =>
    simp only [processStep, Option.map_eq_some_iff] at h
    obtain ⟨S, hS, rfl⟩ := h
    exact hP.wait hS
  | pCloseImpl =>
    simp only [processStep, Option.ite_none_right_eq_some, Option.map_eq_some_iff] at h
    obtain ⟨⟨hphase, hstage⟩, objects, hcalls, rfl⟩ := h
    have hstep := W.close_rounds hP.valid hstage
    exact hP.of_callsTo (W.valid_close hP.valid) (by rw [hphase]; rfl) (by simp [hstage]) hstep
      hcalls fun _ => hstep.stopped hstage
  | pCloseThrows =>
    simp only [processStep, Option.ite_none_right_eq_some, Option.some.injEq] at h
    obtain ⟨⟨hphase, hstage⟩, rfl⟩ := h
    have halive : P.phase.alive = true := by rw [hphase]; rfl
    exact ⟨hP.valid, hP.fresh, hP.zero, fun _ => hP.sound halive, fun _ => hP.holds halive,
      fun _ => hstage⟩
  | dropArray =>
    obtain ⟨hphase, rfl⟩ := W.dropArray_eq_some.mp h
    exact ⟨hP.valid, hP.fresh, hP.zero, fun hdead => (by cases hdead),
      fun hdead => (by cases hdead), fun _ => hP.stopped (by simp [hphase])⟩
  | destroyStatics =>
    simp only [processStep, Option.ite_none_right_eq_some, Option.some.injEq] at h
    obtain ⟨hphase, rfl⟩ := h
    exact ⟨hP.valid, hP.fresh, fun id h hh => (by cases hh), fun hdead => (by cases hdead),
      fun hdead => (by cases hdead), fun _ => hP.stopped (by simp [hphase])⟩

/-- In every run the leave semaphores are 0 until the release. -/
theorem leavesOnRelease_always {s : σ} (hs : W.Starts s) (values : ℕ → ℕ)
    (as : List (ProcessAction α)) : W.process.Always W.LeavesOnRelease (.launch s values) as :=
  Machine.always_of_invariant (I := W.Reached) (fun _ h => h.leavesOnRelease)
    (fun _ _ _ h hstep => h.step hstep) as (hs.reached values)

/-! ## Handlers and the semaphore array -/

/-- A process outside `Run` holds only the installed handlers. -/
theorem Reached.closed_handler {P : RoundsProcess σ} (hP : W.Reached P)
    (hphase : P.phase = .closed) (id : ℕ) :
    (P.objects id).handler = (W.rounds P.worker).installed id := by
  have hstage := hP.stopped (by simp [hphase])
  have hholds := hP.holds (by rw [hphase]; rfl) (by simp [hstage])
  rw [hholds.live id (by simp [hstage, Stage.announced]),
    Rounds.live_of_not_building (by simp [hstage])]

/-- What is released in time at the moment the array is dropped. -/
theorem Reached.released_iff {P : RoundsProcess σ} (hP : W.Reached P)
    (hphase : P.phase = .closed) :
    (∀ id, (P.objects id).released = (P.objects id).constructed) ↔
      ∀ id h, (W.rounds P.worker).installed id = some h → h.released = true := by
  have hcounted (id : ℕ) := (hP.sound (by rw [hphase]; rfl) id).counted
  constructor
  · intro hall id h hh
    have hc := hcounted id
    rw [LeaveSemaphore.unreleased_of_handler ((hP.closed_handler hphase id).trans hh),
      hall id] at hc
    by_contra hr
    rw [if_neg hr] at hc
    omega
  · intro hall id
    rw [hcounted id]
    cases hh : (W.rounds P.worker).installed id with
    | none => simp [LeaveSemaphore.unreleased, hP.closed_handler hphase id, hh]
    | some h =>
      rw [LeaveSemaphore.unreleased_of_handler ((hP.closed_handler hphase id).trans hh),
        if_pos (hall id h hh)]
      rfl

theorem alive_of_step {P Q : RoundsProcess σ} {a : ProcessAction α} (hne : a ≠ .dropArray)
    (h : W.processStep P a = some Q) (hdead : Q.phase.alive = false) :
    P.phase.alive = false ∧ ∀ id, (Q.objects id).released = (P.objects id).released ∧
      (Q.objects id).constructed = (P.objects id).constructed := by
  cases a with
  | run a =>
    simp only [processStep, Option.ite_none_right_eq_some, Option.bind_eq_some_iff,
      Option.map_eq_some_iff] at h
    obtain ⟨⟨halive, -⟩, t, -, objects, -, rfl⟩ := h
    rw [halive] at hdead
    cases hdead
  | wait id =>
    simp only [processStep, LeaveSemaphore.wait, Option.map_eq_some_iff,
      Option.ite_none_right_eq_some, Option.some.injEq] at h
    obtain ⟨S, ⟨-, rfl⟩, rfl⟩ := h
    refine ⟨hdead, fun j => ?_⟩
    by_cases hj : j = id
    · simp [hj]
    · simp [hj]
  | pCloseImpl =>
    simp only [processStep, Option.ite_none_right_eq_some, Option.map_eq_some_iff] at h
    obtain ⟨-, objects, -, rfl⟩ := h
    cases hdead
  | pCloseThrows =>
    simp only [processStep, Option.ite_none_right_eq_some, Option.some.injEq] at h
    obtain ⟨-, rfl⟩ := h
    cases hdead
  | dropArray => exact absurd rfl hne
  | destroyStatics =>
    simp only [processStep, Option.ite_none_right_eq_some, Option.some.injEq] at h
    obtain ⟨hphase, rfl⟩ := h
    exact ⟨by rw [hphase]; rfl, fun id => ⟨rfl, rfl⟩⟩

/-- A step that drops the array only after the releases. -/
theorem Reached.releasedInTime_step {P Q : RoundsProcess σ} {a : ProcessAction α}
    (hP : W.Reached P) (hin : ReleasedInTime P) (hdrops : W.DropsReleased P a)
    (h : W.processStep P a = some Q) : ReleasedInTime Q := by
  intro hdead id
  by_cases ha : a = .dropArray
  · subst ha
    obtain ⟨hphase, rfl⟩ := W.dropArray_eq_some.mp h
    exact (hP.released_iff hphase).mpr (hdrops rfl) id
  · obtain ⟨hdead', hsame⟩ := alive_of_step ha h hdead
    rw [(hsame id).1, (hsame id).2, hin hdead' id]

/-- In every run all handlers are released in time, exactly as long as the array is never
dropped before an unreleased handler. -/
theorem releasedInTime_iff {s : σ} (hs : W.Starts s) (values : ℕ → ℕ)
    (as : List (ProcessAction α)) :
    W.process.Always ReleasedInTime (.launch s values) as ↔
      W.process.Meets W.DropsReleased (.launch s values) as := by
  refine Machine.always_iff_meets (I := fun P => W.Reached P ∧ ReleasedInTime P)
    (fun _ h => h.2) ?_ ?_ as ⟨hs.reached values, fun hdead => (by cases hdead)⟩
  · rintro P a Q ⟨hP, hin⟩ hC h
    exact ⟨hP.step h, hP.releasedInTime_step hin hC h⟩
  · rintro P a Q ⟨hP, -⟩ hC h hQ
    simp only [DropsReleased, Classical.not_imp] at hC
    obtain ⟨rfl, hC⟩ := hC
    obtain ⟨hphase, rfl⟩ := W.dropArray_eq_some.mp h
    exact hC ((hP.released_iff hphase).mp (hQ rfl))

/-- A `pCloseImpl` that closes all handlers releases them in time, unless it is interrupted. -/
theorem releasedInTime_of_closes {s : σ} (hs : W.Starts s)
    (hclose : ∀ s id, (W.rounds (W.pCloseImpl s)).installed id = none) (values : ℕ → ℕ)
    (as : List (ProcessAction α))
    (hthrows : W.process.Meets (fun _ a => a.interruptsClose = false) (.launch s values) as) :
    W.process.Always ReleasedInTime (.launch s values) as := by
  refine Machine.always_of_meets (I := fun P => W.Reached P ∧ ReleasedInTime P ∧
    (P.phase = .closed → ∀ id, (W.rounds P.worker).installed id = none)) (fun _ h => h.2.1)
    ?_ ⟨hs.reached values, fun hdead => (by cases hdead), fun hc => (by cases hc)⟩ hthrows
  rintro P a Q ⟨hP, hin, hnone⟩ hC h
  refine ⟨hP.step h, hP.releasedInTime_step hin (fun ha id k hk => ?_) h, fun hclosed => ?_⟩
  · subst ha
    obtain ⟨hphase, -⟩ := W.dropArray_eq_some.mp h
    rw [hnone hphase id] at hk
    cases hk
  · cases a with
    | run a =>
      simp only [process, processStep, Option.ite_none_right_eq_some, Option.bind_eq_some_iff,
        Option.map_eq_some_iff] at h
      obtain ⟨-, t, ht, objects, -, rfl⟩ := h
      exact (W.step_rounds hP.valid ht).stopped_none
        (hP.stopped (by rw [show P.phase = .closed from hclosed]; simp)) (hnone hclosed)
    | wait id =>
      simp only [process, processStep, Option.map_eq_some_iff] at h
      obtain ⟨S, -, rfl⟩ := h
      exact hnone hclosed
    | pCloseImpl =>
      simp only [process, processStep, Option.ite_none_right_eq_some,
        Option.map_eq_some_iff] at h
      obtain ⟨-, objects, -, rfl⟩ := h
      exact hclose P.worker
    | pCloseThrows => cases hC
    | dropArray =>
      obtain ⟨-, rfl⟩ := W.dropArray_eq_some.mp h
      cases hclosed
    | destroyStatics =>
      simp only [process, processStep, Option.ite_none_right_eq_some, Option.some.injEq] at h
      obtain ⟨-, rfl⟩ := h
      cases hclosed

end RoundsProgram
end AmusementPark.Worker
