import AmusementPark.Worker.LeaveSemaphore

/-! # The rounds of a worker

Attraction and restaurant handle their rounds alike. A new handler is a local
variable while its clients are registered. It is installed when somebody is in
it, and then started. Closing destroys the handlers of an attraction and
releases the one of the restaurant. `Rounds.Step` says once what a step of
either worker can do to its rounds, with the calls it makes on the handlers.
-/
namespace AmusementPark.Worker

/-- How far a worker is with the round it prepares. Between `starting` and `announcing` and the
end of `pCreateNewHandler` the local variable holds the installed handler as well. -/
inductive Stage where
  | idle
  | building (id : ℕ) (newHandler : AttractionHandler)
  | starting (id : ℕ)
  | announcing (id : ℕ)
  | stopped
  | crashed
deriving DecidableEq

/-- The leave semaphore of a handler that is installed and also held by the local variable. -/
def Stage.announced : Stage → Option ℕ
  | .starting id | .announcing id => some id
  | _ => none

/-- The installed handlers by leave semaphore, the round being prepared, and the pause flag. -/
structure Rounds where
  installed : ℕ → Option AttractionHandler
  stage : Stage
  paused : Bool

namespace Rounds

/-- The destructor calls when an exception leaves `pCreateNewHandler`: the local variable dies,
and with it a handler that nothing else holds. -/
def unwind (R : Rounds) : List (ℕ × HandlerCall) :=
  match R.stage with
  | .building id _ => [(id, .destruct)]
  | .starting id | .announcing id => if (R.installed id).isNone then [(id, .destruct)] else []
  | _ => []

/-- Some installed handlers are called, each at most once, and the others stay as they are. -/
structure OnInstalled (R : Rounds) (c : HandlerCall) (calls : List (ℕ × HandlerCall))
    (installed : ℕ → Option AttractionHandler) : Prop where
  nodup : (calls.map Prod.fst).Nodup
  called : ∀ e ∈ calls, e.2 = c ∧ ∃ h, R.installed e.1 = some h ∧ installed e.1 = c.effect h
  rest : ∀ id, id ∉ calls.map Prod.fst → installed id = R.installed id

/-- Every installed handler that nothing else holds is destroyed, each once. -/
structure Destroys (R : Rounds) (calls : List (ℕ × HandlerCall)) : Prop where
  nodup : (calls.map Prod.fst).Nodup
  called : ∀ e ∈ calls, e.2 = .destruct ∧ (R.installed e.1).isSome ∧ R.stage.announced ≠ some e.1
  all : ∀ id, (R.installed id).isSome → R.stage.announced ≠ some id → id ∈ calls.map Prod.fst

/-- `cut` is a signal whose log message throws where the exception is caught: it sets the pause
flag and does nothing to the handlers. -/
inductive StepKind where
  | ordinary
  | installs
  | cut (paused : Bool)
deriving DecidableEq

/-- What a step of a worker with room for `cap` people in a handler can do to its rounds. The
kind tells whether it installs a new handler; the list has the calls on handlers it makes. -/
inductive Step (cap : ℕ) (R : Rounds) : StepKind → List (ℕ × HandlerCall) → Rounds → Prop where
  | keep : Step cap R .ordinary [] R
  | resume : Step cap R .ordinary [] { R with paused := false }
  | cut {id : ℕ} {h : AttractionHandler} (paused : Bool) (hstage : R.stage = .building id h) :
      Step cap R (.cut paused) [] { R with paused := paused }
  | clear {calls : List (ℕ × HandlerCall)} (paused : Bool) (h : R.Destroys calls) :
      Step cap R .ordinary calls ⟨fun _ => none, R.stage, paused⟩
  | release {calls : List (ℕ × HandlerCall)} {installed : ℕ → Option AttractionHandler}
      (h : R.OnInstalled .releaseClients calls installed)
      (hall : ∀ id, (R.installed id).isSome → id ∈ calls.map Prod.fst) :
      Step cap R .ordinary calls ⟨installed, R.stage, true⟩
  | stop (paused : Bool) : Step cap R .ordinary R.unwind ⟨R.installed, .stopped, paused⟩
  | exits {calls : List (ℕ × HandlerCall)} {installed : ℕ → Option AttractionHandler} (pid : Pid)
      (hidle : R.stage = .idle) (h : R.OnInstalled (.removeClient pid) calls installed) :
      Step cap R .ordinary calls ⟨installed, .idle, R.paused⟩
  | cutExits {calls : List (ℕ × HandlerCall)} {installed : ℕ → Option AttractionHandler}
      {paused : Bool} (pid : Pid) (hidle : R.stage = .idle)
      (h : R.OnInstalled (.removeClient pid) calls installed) :
      Step cap R (.cut paused) calls ⟨installed, .idle, paused⟩
  | finishes {calls : List (ℕ × HandlerCall)} {installed : ℕ → Option AttractionHandler}
      (hidle : R.stage = .idle) (h : R.OnInstalled .destruct calls installed) :
      Step cap R .ordinary calls ⟨installed, .idle, R.paused⟩
  | create (id : ℕ) (data : AttractionHandlerData) (hidle : R.stage = .idle)
      (hpaused : R.paused = false) (hfree : R.installed id = none) :
      Step cap R .ordinary [(id, .construct data)]
        { R with stage := .building id (.construct data) }
  | admission {id : ℕ} {h : AttractionHandler} (pid : Pid) (hasChild fromPark : Bool)
      (hstage : R.stage = .building id h)
      (hfits : h.getClientCount + partySize hasChild ≤ cap) :
      Step cap R .ordinary [(id, .addClient pid hasChild fromPark)]
        { R with stage := .building id (h.addClient pid hasChild fromPark).2 }
  | discard {id : ℕ} {h : AttractionHandler} (hstage : R.stage = .building id h)
      (hempty : h.isEmpty = true) :
      Step cap R .ordinary [(id, .destruct)] { R with stage := .idle }
  | install {id : ℕ} {h : AttractionHandler} (hstage : R.stage = .building id h)
      (hfull : h.isEmpty = false) :
      Step cap R .installs []
        ⟨Function.update R.installed id (some h), .starting id, R.paused⟩
  | start {id : ℕ} {h : AttractionHandler} (now : ℤ) (hstage : R.stage = .starting id)
      (hh : R.installed id = some h) :
      Step cap R .ordinary [(id, .startAttraction now)]
        ⟨Function.update R.installed id (some (h.startAttraction now)), .announcing id, R.paused⟩
  | announce {id : ℕ} (hstage : R.stage = .announcing id) (hh : (R.installed id).isSome) :
      Step cap R .ordinary [] { R with stage := .idle }
  | crash {id : ℕ} (hstage : R.stage.announced = some id) (hnone : R.installed id = none) :
      Step cap R .ordinary [] { R with stage := .crashed }

variable {cap : ℕ} {R R' : Rounds} {kind : StepKind} {calls : List (ℕ × HandlerCall)}

theorem unwind_idle (hidle : R.stage = .idle) : R.unwind = [] := by
  rw [unwind, hidle]

/-- A handler that is there after one has been put in is that one or was there before. -/
theorem installed_of_update {installed : ℕ → Option AttractionHandler} {i id : ℕ}
    {h k : AttractionHandler} (hk : Function.update installed i (some h) id = some k) :
    id = i ∧ h = k ∨ id ≠ i ∧ installed id = some k := by
  by_cases hid : id = i
  · rw [hid, Function.update_self] at hk
    exact .inl ⟨hid, Option.some.inj hk⟩
  · rw [Function.update_of_ne hid] at hk
    exact .inr ⟨hid, hk⟩

/-- What the installed handlers are after some calls on them. -/
theorem OnInstalled.cases {c : HandlerCall} {installed : ℕ → Option AttractionHandler}
    (h : R.OnInstalled c calls installed) (id : ℕ) :
    installed id = R.installed id ∨ installed id = (R.installed id).bind c.effect := by
  by_cases hid : id ∈ calls.map Prod.fst
  · obtain ⟨e, he, rfl⟩ := List.mem_map.mp hid
    obtain ⟨-, k, hk, heffect⟩ := h.called e he
    right
    rw [heffect, hk, Option.bind_some]
  · exact .inl (h.rest id hid)

/-- A handler that is called was installed, and one that is left comes from one that was. -/
theorem OnInstalled.of_some {c : HandlerCall} {installed : ℕ → Option AttractionHandler}
    (h : R.OnInstalled c calls installed) {id : ℕ} {k : AttractionHandler}
    (hk : installed id = some k) :
    ∃ h, R.installed id = some h ∧ (k = h ∨ c.effect h = some k) := by
  obtain hsame | heffect := h.cases id
  · exact ⟨k, hsame ▸ hk, .inl rfl⟩
  · rw [heffect, Option.bind_eq_some_iff] at hk
    obtain ⟨h, hh, hk⟩ := hk
    exact ⟨h, hh, .inr hk⟩

/-! ## The new handler -/

/-- A new handler is built on a free semaphore, is not started and has not released anybody. -/
def Fresh (R : Rounds) : Prop :=
  ∀ id h, R.stage = .building id h →
    R.installed id = none ∧ h.released = false ∧ h.started = false

theorem Fresh.step (hR : R.Fresh) (h : R.Step cap kind calls R') : R'.Fresh := by
  cases h with
  | keep => exact hR
  | resume => exact hR
  | cut => exact hR
  | clear paused _ =>
    intro id h hstage
    exact ⟨rfl, (hR id h hstage).2⟩
  | release h _ =>
    intro id k hstage
    refine ⟨?_, (hR id k hstage).2⟩
    have hnone := (hR id k hstage).1
    obtain hsame | heffect := h.cases id
    · exact hsame.trans hnone
    · exact heffect.trans (by rw [hnone]; rfl)
  | create id data _ _ hfree =>
    intro id' h hstage
    obtain ⟨rfl, rfl⟩ := Stage.building.inj hstage
    exact ⟨hfree, rfl, rfl⟩
  | @admission id h pid hasChild fromPark hstage _ =>
    intro id' k hstage'
    obtain ⟨rfl, rfl⟩ := Stage.building.inj hstage'
    obtain ⟨hfree, hreleased, hstarted⟩ := hR id h hstage
    exact ⟨hfree, (h.addClient_released pid hasChild fromPark).trans hreleased,
      (h.addClient_started pid hasChild fromPark).trans hstarted⟩
  | stop | exits | cutExits | finishes | discard | install | start | announce | crash =>
    intro id h hstage
    cases hstage

/-! ## Rounds of a closed worker -/

/-- While the worker runs and is paused, every installed handler has been released. -/
def ClosedRunsNone (R : Rounds) : Prop :=
  R.paused = true → R.stage ≠ .stopped → R.stage ≠ .crashed →
    ∀ id h, R.installed id = some h → h.released = true

/-- The handlers that a step starts during a pause. -/
def closedStarts (R : Rounds) (calls : List (ℕ × HandlerCall)) : List ℕ :=
  if R.paused then (calls.filter (·.2.starts)).map Prod.fst else []

/-- The step begins nothing during a pause, and a closing order that is cut off by its log message
leaves no round running. -/
structure KeepsClosed (R : Rounds) (kind : StepKind) (calls : List (ℕ × HandlerCall)) :
    Prop where
  installs : kind = .installs → R.paused = false
  starts : (∃ e ∈ calls, e.2.starts = true) → R.paused = false
  cut : kind = .cut true → ∀ id h, R.installed id = some h → h.released = true

theorem closedStarts_eq_nil :
    R.closedStarts calls = [] ↔ ((∃ e ∈ calls, e.2.starts = true) → R.paused = false) := by
  cases hpaused : R.paused <;> simp [closedStarts, hpaused, List.filter_eq_nil_iff]

theorem ClosedRunsNone.step (hR : R.ClosedRunsNone) (h : R.Step cap kind calls R')
    (hkeeps : R.KeepsClosed kind calls) : R'.ClosedRunsNone := by
  intro hpaused hstopped hcrashed id k hk
  cases h with
  | keep => exact hR hpaused hstopped hcrashed id k hk
  | resume => cases hpaused
  | cut =>
    obtain rfl := hpaused
    exact hkeeps.cut rfl id k hk
  | clear => cases hk
  | release h hall =>
    have hsome : (R.installed id).isSome := by
      obtain ⟨h', hh', -⟩ := h.of_some hk
      rw [hh']
      rfl
    obtain ⟨e, he, rfl⟩ := List.mem_map.mp (hall id hsome)
    obtain ⟨-, h', -, heffect⟩ := h.called e he
    replace hk := heffect.symm.trans hk
    obtain rfl := Option.some.inj hk
    exact h'.releaseClients_released
  | stop => exact absurd rfl hstopped
  | exits pid hidle h =>
    obtain ⟨h', hh', rfl | heffect⟩ := h.of_some hk
    · exact hR hpaused (by simp [hidle]) (by simp [hidle]) id k hh'
    · obtain rfl := Option.some.inj heffect
      exact hR hpaused (by simp [hidle]) (by simp [hidle]) id h' hh'
  | cutExits pid hidle h =>
    obtain rfl := hpaused
    obtain ⟨h', hh', rfl | heffect⟩ := h.of_some hk
    · exact hkeeps.cut rfl id k hh'
    · obtain rfl := Option.some.inj heffect
      exact hkeeps.cut rfl id h' hh'
  | finishes hidle h =>
    obtain ⟨h', hh', rfl | heffect⟩ := h.of_some hk
    · exact hR hpaused (by simp [hidle]) (by simp [hidle]) id k hh'
    · cases heffect
  | create _ _ hidle => exact hR hpaused (by simp [hidle]) (by simp [hidle]) id k hk
  | admission _ _ _ hstage => exact hR hpaused (by simp [hstage]) (by simp [hstage]) id k hk
  | discard hstage => exact hR hpaused (by simp [hstage]) (by simp [hstage]) id k hk
  | install => simp [hkeeps.installs rfl] at hpaused
  | @start i h now hstage hh =>
    obtain ⟨rfl, rfl⟩ | ⟨-, hk⟩ := installed_of_update hk
    · rw [AttractionHandler.startAttraction_released]
      exact hR hpaused (by simp [hstage]) (by simp [hstage]) id h hh
    · exact hR hpaused (by simp [hstage]) (by simp [hstage]) id k hk
  | announce hstage => exact hR hpaused (by simp [hstage]) (by simp [hstage]) id k hk
  | crash => exact absurd rfl hcrashed

/-- An installation during a pause breaks it. -/
theorem ClosedRunsNone.broken_of_installs (hR : R.Fresh) (h : R.Step cap .installs calls R')
    (hpaused : R.paused = true) : ¬ R'.ClosedRunsNone := by
  cases h with
  | @install id h hstage hfull =>
    intro hclosed
    have := hclosed hpaused (by simp) (by simp) id h (Function.update_self ..)
    rw [(hR id h hstage).2.1] at this
    cases this

/-- So does a closing order that is cut off while a round runs. -/
theorem ClosedRunsNone.broken_of_cut (h : R.Step cap (.cut true) calls R') {id : ℕ}
    {k : AttractionHandler} (hk : R.installed id = some k) (hreleased : k.released = false) :
    ¬ R'.ClosedRunsNone := by
  intro hclosed
  cases h with
  | cut paused hstage =>
    have := hclosed rfl (by simp [hstage]) (by simp [hstage]) id k hk
    rw [hreleased] at this
    cases this
  | cutExits pid hidle h =>
    obtain hsame | heffect := h.cases id
    · have := hclosed rfl (by simp) (by simp) id k (hsame.trans hk)
      rw [hreleased] at this
      cases this
    · have hleft : (R.installed id).bind (HandlerCall.removeClient pid).effect =
          some (k.removeClient pid).2 := by
        rw [hk]
        rfl
      have := hclosed rfl (by simp) (by simp) id (k.removeClient pid).2 (heffect.trans hleft)
      rw [show (k.removeClient pid).2.released = k.released from rfl, hreleased] at this
      cases this

/-! ## Capacity and frozen rosters -/

/-- No handler holds more people than it has room for, and the one that `StartAttraction` is
about to be called on holds somebody. -/
structure WithinCapacity (cap : ℕ) (R : Rounds) : Prop where
  installed : ∀ id h, R.installed id = some h → h.getClientCount ≤ cap
  building : ∀ id h, R.stage = .building id h → h.getClientCount ≤ cap
  nonempty : ∀ id h, R.stage = .starting id → R.installed id = some h → h.isEmpty = false

/-- A step of a worker adds nobody to a handler that has been started; its client list only
shrinks. -/
def Frozen (R R' : Rounds) : Prop :=
  ∀ id h k, R.installed id = some h → h.started = true → R'.installed id = some k →
    k.started = true ∧ k.clientList.entries.Sublist h.clientList.entries

/-- An installed handler keeps within its room when it is called. -/
theorem WithinCapacity.onInstalled (hR : R.WithinCapacity cap) {c : HandlerCall}
    {installed : ℕ → Option AttractionHandler} (h : R.OnInstalled c calls installed)
    (hc : ∀ h k, c.effect h = some k → k.getClientCount ≤ h.getClientCount) {id : ℕ}
    {k : AttractionHandler} (hk : installed id = some k) : k.getClientCount ≤ cap := by
  obtain ⟨h', hh', rfl | heffect⟩ := h.of_some hk
  · exact hR.installed id k hh'
  · exact (hc h' k heffect).trans (hR.installed id h' hh')

theorem WithinCapacity.step (hR : R.WithinCapacity cap) (h : R.Step cap kind calls R') :
    R'.WithinCapacity cap := by
  have hidle {installed : ℕ → Option AttractionHandler} {paused : Bool}
      (hinstalled : ∀ id h, installed id = some h → h.getClientCount ≤ cap) :
      WithinCapacity cap ⟨installed, .idle, paused⟩ :=
    ⟨hinstalled, fun _ _ hstage => (by cases hstage), fun _ _ hstage => (by cases hstage)⟩
  cases h with
  | keep => exact hR
  | resume => exact ⟨hR.installed, hR.building, hR.nonempty⟩
  | cut => exact ⟨hR.installed, hR.building, hR.nonempty⟩
  | clear => exact ⟨fun _ _ hk => (by cases hk), hR.building, fun _ _ _ hk => (by cases hk)⟩
  | release h _ =>
    refine ⟨fun id k hk => hR.onInstalled h (fun h k hk => ?_) hk, hR.building,
      fun id k hstage hk => ?_⟩
    · obtain rfl := Option.some.inj hk
      rw [AttractionHandler.getClientCount_congr (AttractionHandler.releaseClients_clientList h)]
    · obtain ⟨h', hh', rfl | heffect⟩ := h.of_some hk
      · exact hR.nonempty id k hstage hh'
      · obtain rfl := Option.some.inj heffect
        have := hR.nonempty id h' hstage hh'
        rwa [AttractionHandler.isEmpty, AttractionHandler.releaseClients_clientList]
  | stop => exact ⟨hR.installed, fun _ _ hstage => (by cases hstage),
      fun _ _ hstage => (by cases hstage)⟩
  | exits pid _ h | cutExits pid _ h =>
    refine hidle fun id k hk => hR.onInstalled h (fun h k hk => ?_) hk
    obtain rfl := Option.some.inj hk
    exact AttractionHandler.getClientCount_removeClient_le pid h
  | finishes _ h => exact hidle fun id k hk => hR.onInstalled h (fun _ _ hk => (by cases hk)) hk
  | create id data =>
    refine ⟨hR.installed, fun id' k hstage => ?_, fun _ _ hstage => (by cases hstage)⟩
    obtain ⟨-, rfl⟩ := Stage.building.inj hstage
    rw [AttractionHandler.construct_getClientCount]
    omega
  | @admission id h pid hasChild fromPark hstage hfits =>
    refine ⟨hR.installed, fun id' k hstage => ?_, fun _ _ hstage => (by cases hstage)⟩
    obtain ⟨-, rfl⟩ := Stage.building.inj hstage
    exact (AttractionHandler.getClientCount_addClient_le pid hasChild fromPark h).trans hfits
  | discard | announce => exact hidle hR.installed
  | @install i h hstage hfull =>
    refine ⟨fun id k hk => ?_, fun _ _ hstage => (by cases hstage), fun id k hstage' hk => ?_⟩
    · obtain ⟨rfl, rfl⟩ | ⟨-, hk⟩ := installed_of_update hk
      · exact hR.building id h hstage
      · exact hR.installed id k hk
    · obtain rfl := Stage.starting.inj hstage'
      dsimp only at hk
      rw [Function.update_self] at hk
      exact Option.some.inj hk ▸ hfull
  | @start i h now hstage hh =>
    refine ⟨fun id k hk => ?_, fun _ _ hstage => (by cases hstage),
      fun _ _ hstage => (by cases hstage)⟩
    obtain ⟨rfl, rfl⟩ | ⟨-, hk⟩ := installed_of_update hk
    · rw [AttractionHandler.getClientCount_congr
        (AttractionHandler.startAttraction_clientList now h)]
      exact hR.installed id h hh
    · exact hR.installed id k hk
  | crash => exact ⟨hR.installed, fun _ _ hstage => (by cases hstage),
      fun _ _ hstage => (by cases hstage)⟩

theorem OnInstalled.frozen {c : HandlerCall} {installed : ℕ → Option AttractionHandler}
    (h : R.OnInstalled c calls installed)
    (hc : ∀ h k, c.effect h = some k →
      k.started = h.started ∧ k.clientList.entries.Sublist h.clientList.entries) :
    ∀ id h k, R.installed id = some h → h.started = true → installed id = some k →
      k.started = true ∧ k.clientList.entries.Sublist h.clientList.entries := by
  intro id h' k hh' hstarted hk
  obtain ⟨h'', hh'', hcases⟩ := h.of_some hk
  obtain rfl := Option.some.inj (hh'.symm.trans hh'')
  obtain rfl | heffect := hcases
  · exact ⟨hstarted, List.Sublist.refl _⟩
  · exact ⟨(hc h' k heffect).1.trans hstarted, (hc h' k heffect).2⟩

/-- No step of a worker adds a client to a started handler. -/
theorem Step.frozen (hR : R.Fresh) (h : R.Step cap kind calls R') : Frozen R R' := by
  have hsame {h k : AttractionHandler} {id : ℕ} (hh : R.installed id = some h)
      (hstarted : h.started = true) (hk : R.installed id = some k) :
      k.started = true ∧ k.clientList.entries.Sublist h.clientList.entries := by
    obtain rfl := Option.some.inj (hh.symm.trans hk)
    exact ⟨hstarted, List.Sublist.refl _⟩
  intro id h' k hh' hstarted hk
  cases h with
  | keep | resume | cut | stop | create | admission | discard | announce | crash =>
    exact hsame hh' hstarted hk
  | clear => cases hk
  | release h _ =>
    refine h.frozen (fun h k hk => ?_) id h' k hh' hstarted hk
    obtain rfl := Option.some.inj hk
    rw [AttractionHandler.releaseClients_clientList]
    refine ⟨?_, List.Sublist.refl _⟩
    unfold AttractionHandler.releaseClients
    split <;> rfl
  | exits pid _ h | cutExits pid _ h =>
    refine h.frozen (fun h k hk => ?_) id h' k hh' hstarted hk
    obtain rfl := Option.some.inj hk
    exact ⟨rfl, List.kerase_sublist pid h.clientList.entries⟩
  | finishes _ h =>
    exact h.frozen (fun _ _ hk => (by cases hk)) id h' k hh' hstarted hk
  | @install i h hstage _ =>
    -- the semaphore of a new handler is free
    obtain ⟨rfl, -⟩ | ⟨-, hk⟩ := installed_of_update hk
    · rw [(hR id h hstage).1] at hh'
      cases hh'
    · exact hsame hh' hstarted hk
  | @start i h now _ hh =>
    obtain ⟨rfl, rfl⟩ | ⟨-, hk⟩ := installed_of_update hk
    · obtain rfl := Option.some.inj (hh.symm.trans hh')
      simp [AttractionHandler.startAttraction, hstarted]
    · exact hsame hh' hstarted hk

end Rounds
end AmusementPark.Worker
