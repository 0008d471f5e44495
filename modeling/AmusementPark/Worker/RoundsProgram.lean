import AmusementPark.Library.Machine
import AmusementPark.Worker.Rounds

/-! # Programs that run rounds

A main loop together with the view of its rounds and the proof that each of its
steps does to them what `Rounds.Step` allows. Attraction and restaurant are two
instances; what follows from the allowed steps is proved here once.
-/
namespace AmusementPark.Worker
open Library

/-- A worker's main loop with its rounds, the calls of a step on handlers, and what `pCloseImpl`
does. `Valid` collects facts about the worker's own state that every step keeps. -/
structure RoundsProgram (σ α : Type*) where
  machine : Machine σ α
  capacity : ℕ
  rounds : σ → Rounds
  kind : σ → α → Rounds.StepKind
  calls : σ → α → List (ℕ × HandlerCall)
  pCloseImpl : σ → σ
  closeCalls : σ → List (ℕ × HandlerCall)
  Valid : σ → Prop
  valid_step : ∀ {s a t}, Valid s → machine.step s a = some t → Valid t
  step_rounds : ∀ {s a t}, Valid s → machine.step s a = some t →
    (rounds s).Step capacity (kind s a) (calls s a) (rounds t)
  valid_close : ∀ {s}, Valid s → Valid (pCloseImpl s)
  close_rounds : ∀ {s}, Valid s → (rounds s).stage = .stopped →
    (rounds s).Step capacity .ordinary (closeCalls s) (rounds (pCloseImpl s))

namespace RoundsProgram
variable {σ α : Type*} (W : RoundsProgram σ α)

/-- A start state: no handler is installed or being built. -/
structure Starts (s : σ) : Prop where
  valid : W.Valid s
  installed : ∀ id, (W.rounds s).installed id = none
  stage : (W.rounds s).stage = .idle ∨ (W.rounds s).stage = .stopped

/-- The worker with the rounds it has started during pauses. -/
def closingMachine : Machine (σ × List ℕ) α :=
  W.machine.observe fun started s a _ => started ++ (W.rounds s).closedStarts (W.calls s a)

/-- During a pause no round runs, and none has ever been started during one. -/
structure RunsNoneClosed (x : σ × List ℕ) : Prop where
  released : (W.rounds x.1).ClosedRunsNone
  started : x.2 = []

/-- The step begins no round during a pause and cuts no closing order off while a round runs. -/
def KeepsClosed (x : σ × List ℕ) (a : α) : Prop :=
  (W.rounds x.1).KeepsClosed (W.kind x.1 a) (W.calls x.1 a)

/-- The step begins no round during a pause, and is no closing order that is cut off. -/
def BeginsOpen (x : σ × List ℕ) (a : α) : Prop :=
  (W.kind x.1 a = .installs ∨ (∃ e ∈ W.calls x.1 a, e.2.starts = true) →
    (W.rounds x.1).paused = false) ∧ W.kind x.1 a ≠ .cut true

instance (x : σ × List ℕ) (a : α) : Decidable (W.BeginsOpen x a) :=
  inferInstanceAs (Decidable ((_ ∨ _ → _) ∧ _))

variable {W}

theorem BeginsOpen.keepsClosed {x : σ × List ℕ} {a : α} (h : W.BeginsOpen x a) :
    W.KeepsClosed x a :=
  ⟨fun hinstalls => h.1 (.inl hinstalls), fun hstarts => h.1 (.inr hstarts),
    fun hcut => absurd hcut h.2⟩

theorem Starts.fresh {s : σ} (hs : W.Starts s) : (W.rounds s).Fresh := by
  intro id h hstage
  obtain hidle | hstopped := hs.stage
  · simp [hidle] at hstage
  · simp [hstopped] at hstage

theorem RunsNoneClosed.step {x y : σ × List ℕ} {a : α} (hvalid : W.Valid x.1)
    (hx : W.RunsNoneClosed x) (ha : W.KeepsClosed x a) (h : W.closingMachine.step x a = some y) :
    W.RunsNoneClosed y := by
  obtain ⟨hstep, hrecord⟩ := Machine.observe_step.mp h
  refine ⟨hx.released.step (W.step_rounds hvalid hstep) ha, ?_⟩
  rw [← hrecord, hx.started, Rounds.closedStarts_eq_nil.mpr ha.starts]
  rfl

/-- A step outside the condition runs or starts a round during a pause. -/
theorem RunsNoneClosed.broken {x y : σ × List ℕ} {a : α} (hvalid : W.Valid x.1)
    (hfresh : (W.rounds x.1).Fresh) (ha : ¬ W.KeepsClosed x a)
    (h : W.closingMachine.step x a = some y) : ¬ W.RunsNoneClosed y := by
  obtain ⟨hstep, hrecord⟩ := Machine.observe_step.mp h
  have hround := W.step_rounds hvalid hstep
  intro hy
  refine ha ⟨fun hinstalls => ?_, ?_, fun hcut id k hk => ?_⟩
  · rw [hinstalls] at hround
    by_contra hpaused
    exact Rounds.ClosedRunsNone.broken_of_installs hfresh hround
      (Bool.of_not_eq_false hpaused) hy.released
  · have hnil := hy.started
    rw [← hrecord, List.append_eq_nil_iff] at hnil
    exact Rounds.closedStarts_eq_nil.mp hnil.2
  · rw [hcut] at hround
    by_contra hreleased
    exact Rounds.ClosedRunsNone.broken_of_cut hround hk
      (Bool.of_not_eq_true hreleased) hy.released

/-- In every run the paused worker runs and starts no round, exactly as long as no step begins
one during a pause or cuts a closing order off while a round runs. -/
theorem runsNoneClosed_iff {s : σ} (hs : W.Starts s) (as : List α) :
    W.closingMachine.Always W.RunsNoneClosed (s, []) as ↔
      W.closingMachine.Meets W.KeepsClosed (s, []) as := by
  refine Machine.always_iff_meets
    (I := fun x => W.Valid x.1 ∧ (W.rounds x.1).Fresh ∧ W.RunsNoneClosed x)
    (fun _ h => h.2.2) ?_ ?_ as ⟨hs.valid, hs.fresh, ?_, rfl⟩
  · rintro x a y ⟨hvalid, hfresh, hx⟩ ha h
    obtain ⟨hstep, -⟩ := Machine.observe_step.mp h
    exact ⟨W.valid_step hvalid hstep, hfresh.step (W.step_rounds hvalid hstep),
      hx.step hvalid ha h⟩
  · rintro x a y ⟨hvalid, hfresh, -⟩ ha h
    exact RunsNoneClosed.broken hvalid hfresh ha h
  · intro _ _ _ id h hh
    rw [hs.installed id] at hh
    cases hh

/-- In every run every handler keeps within its room, only handlers with clients are started,
and no step adds a client to a started handler. -/
theorem capacity_always {s : σ} (hs : W.Starts s) (as : List α) :
    W.machine.Always (fun s => (W.rounds s).WithinCapacity W.capacity) s as ∧
      W.machine.Meets (fun s a => ∀ t, W.machine.step s a = some t →
        Rounds.Frozen (W.rounds s) (W.rounds t)) s as := by
  have hstart : (W.rounds s).WithinCapacity W.capacity := by
    refine ⟨fun id h hh => ?_, fun id h hstage => ?_, fun id h _ hh => ?_⟩
    · rw [hs.installed id] at hh
      cases hh
    · obtain hidle | hstopped := hs.stage
      · simp [hidle] at hstage
      · simp [hstopped] at hstage
    · rw [hs.installed id] at hh
      cases hh
  constructor
  · refine Machine.always_of_invariant
      (I := fun s => W.Valid s ∧ (W.rounds s).WithinCapacity W.capacity)
      (fun _ h => h.2) ?_ as ⟨hs.valid, hstart⟩
    rintro s a t ⟨hvalid, hcap⟩ h
    exact ⟨W.valid_step hvalid h, hcap.step (W.step_rounds hvalid h)⟩
  · have hinv : W.Valid s ∧ (W.rounds s).Fresh := ⟨hs.valid, hs.fresh⟩
    refine Machine.meets_of_invariant (I := fun s => W.Valid s ∧ (W.rounds s).Fresh) ?_ ?_ as hinv
    · rintro s a t ⟨hvalid, hfresh⟩ h
      exact ⟨W.valid_step hvalid h, hfresh.step (W.step_rounds hvalid h)⟩
    · rintro s a ⟨hvalid, hfresh⟩ t h
      exact (W.step_rounds hvalid h).frozen hfresh

end RoundsProgram
end AmusementPark.Worker
