import AmusementPark.Worker.Rounds

/-! # The handlers that a worker holds

The handlers on the leave semaphores are the ones the worker holds in its map,
in `m_handler` or in the local variable of the round it prepares. Every step a
worker can take keeps it so, and none of its calls on a handler blocks.
-/
namespace AmusementPark.Worker
namespace Rounds

/-- The handler that the worker holds for a leave semaphore. -/
def live (R : Rounds) (id : ℕ) : Option AttractionHandler :=
  match R.stage with
  | .building i newHandler => if i = id then some newHandler else R.installed id
  | _ => R.installed id

/-- The handlers on the semaphores are those the worker holds. After a crash nobody holds them. -/
structure Holds (R : Rounds) (objects : ℕ → LeaveSemaphore) : Prop where
  live : ∀ id, R.stage.announced ≠ some id → (objects id).handler = R.live id
  announced : ∀ id, R.stage.announced = some id → (objects id).handler.isSome = true ∧
    ∀ h, R.installed id = some h → (objects id).handler = some h

variable {cap : ℕ} {R R' : Rounds} {kind : StepKind} {calls : List (ℕ × HandlerCall)}
  {objects : ℕ → LeaveSemaphore}

/-- A new handler is never built on the semaphore of an installed one. -/
theorem live_of_occupied (hR : R.Fresh) {id : ℕ} {k : AttractionHandler}
    (hk : R.installed id = some k) (installed : ℕ → Option AttractionHandler) (paused : Bool) :
    live ⟨installed, R.stage, paused⟩ id = installed id := by
  unfold live
  split
  · next i newHandler hstage =>
    apply if_neg
    intro hi
    rw [← hi, (hR i newHandler hstage).1] at hk
    cases hk
  · rfl

theorem live_of_installed (hR : R.Fresh) {id : ℕ} {h : AttractionHandler}
    (hh : R.installed id = some h) : R.live id = some h :=
  (live_of_occupied hR hh R.installed R.paused).trans hh

theorem live_of_building {id : ℕ} {h : AttractionHandler} (hstage : R.stage = .building id h) :
    R.live id = some h := by
  simp [live, hstage]

theorem live_of_building_ne {id j : ℕ} {h : AttractionHandler} (hstage : R.stage = .building id h)
    (hj : j ≠ id) : R.live j = R.installed j := by
  simp [live, hstage, Ne.symm hj]

theorem live_of_not_building (hstage : ∀ id h, R.stage ≠ .building id h) (id : ℕ) :
    R.live id = R.installed id := by
  unfold live
  split
  · next i h hi => exact absurd hi (hstage i h)
  · rfl

/-- An installed handler is on its semaphore. -/
theorem Holds.of_installed (hholds : R.Holds objects) (hR : R.Fresh) {id : ℕ}
    {h : AttractionHandler} (hh : R.installed id = some h) : (objects id).handler = some h := by
  by_cases ha : R.stage.announced = some id
  · exact (hholds.announced id ha).2 h hh
  · rw [hholds.live id ha]
    exact live_of_installed hR hh

/-- A handler that is being built is on its semaphore. -/
theorem Holds.of_building (hholds : R.Holds objects) {id : ℕ} {h : AttractionHandler}
    (hstage : R.stage = .building id h) : (objects id).handler = some h := by
  rw [hholds.live id (by simp [hstage, Stage.announced]), live_of_building hstage]

/-! ## One call, and calls on the installed handlers -/

/-- The calls are possible, and their result is as the next rounds need it. -/
def CallsTo (objects : ℕ → LeaveSemaphore) (calls : List (ℕ × HandlerCall)) (R : Rounds) : Prop :=
  ∃ result, callAll objects calls = some result ∧ (∀ id, (result id).Sound) ∧
    (R.stage ≠ .crashed → R.Holds result)

theorem callsTo_nil (hobjects : ∀ id, (objects id).Sound)
    (hholds : R.stage ≠ .crashed → R.Holds objects) : CallsTo objects [] R :=
  ⟨objects, rfl, hobjects, hholds⟩

theorem call_one (hobjects : ∀ id, (objects id).Sound) {id : ℕ} {h : AttractionHandler}
    (hh : (objects id).handler = some h) {c : HandlerCall} (hc : c.constructs = false) :
    ∃ result, callAll objects [(id, c)] = some result ∧ (∀ id, (result id).Sound) ∧
      (result id).handler = c.effect h ∧ ∀ j, j ≠ id → result j = objects j := by
  obtain ⟨result, hresult, hsound, hcalled, hrest⟩ := callAll_sound hobjects
    (show (List.map Prod.fst [(id, c)]).Nodup by simp) (by simp [hh, hc])
  refine ⟨result, hresult, hsound, ?_, fun j hj => hrest j (by simpa using hj)⟩
  rw [hcalled (id, c) (by simp), hh, Option.bind_some]

/-- A call on one handler, where the worker holds the others as before. -/
theorem callsTo_one (hobjects : ∀ id, (objects id).Sound) {id : ℕ} {h : AttractionHandler}
    (hh : (objects id).handler = some h) {c : HandlerCall} (hc : c.constructs = false)
    (hother : ∀ j, j ≠ id → (objects j).handler = R'.live j)
    (hself : R'.live id = c.effect h)
    (hannounced : ∀ j, R'.stage.announced = some j → j = id ∧ (c.effect h).isSome = true ∧
      R'.installed id = c.effect h) : CallsTo objects [(id, c)] R' := by
  obtain ⟨result, hresult, hsound, hcalled, hrest⟩ := call_one hobjects hh hc
  refine ⟨result, hresult, hsound, fun _ => ⟨fun j _ => ?_, fun j ha => ?_⟩⟩
  · by_cases hj : j = id
    · rw [hj, hcalled, hself]
    · rw [hrest j hj, hother j hj]
  · obtain ⟨rfl, hsome, hinstalled⟩ := hannounced j ha
    rw [hcalled]
    refine ⟨hsome, fun k hk => ?_⟩
    rw [← hinstalled, hk]

/-- Calls on installed handlers that leave them in place, or made while no round is prepared. -/
theorem Holds.callsTo (hholds : R.Holds objects) (hR : R.Fresh)
    (hobjects : ∀ id, (objects id).Sound) {c : HandlerCall} (hc : c.constructs = false)
    {installed : ℕ → Option AttractionHandler} (h : R.OnInstalled c calls installed)
    (hkeep : R.stage.announced = none ∨ ∀ h, (c.effect h).isSome = true) (paused : Bool) :
    CallsTo objects calls ⟨installed, R.stage, paused⟩ := by
  obtain ⟨result, hresult, hsound, hcalled, hrest⟩ := callAll_sound hobjects h.nodup
    (fun e he => by
      obtain ⟨hc', k, hk, -⟩ := h.called e he
      rw [hholds.of_installed hR hk, hc']
      exact ⟨rfl, hc⟩)
  have hsome (id : ℕ) (k : AttractionHandler) (hk : R.installed id = some k) :
      (result id).handler = installed id := by
    by_cases hid : id ∈ calls.map Prod.fst
    · obtain ⟨e, he, rfl⟩ := List.mem_map.mp hid
      obtain ⟨hc', k', hk', heffect⟩ := h.called e he
      rw [hcalled e he, hholds.of_installed hR hk', heffect, hc', Option.bind_some]
    · rw [hrest id hid, h.rest id hid, hholds.of_installed hR hk, hk]
  have hnone (id : ℕ) (hk : R.installed id = none) :
      result id = objects id ∧ installed id = none := by
    have hid : id ∉ calls.map Prod.fst := by
      intro hid
      obtain ⟨e, he, rfl⟩ := List.mem_map.mp hid
      obtain ⟨-, k, hk', -⟩ := h.called e he
      rw [hk'] at hk
      cases hk
    exact ⟨hrest id hid, (h.rest id hid).trans hk⟩
  refine ⟨result, hresult, hsound, fun _ => ⟨fun id ha => ?_, fun id ha => ?_⟩⟩
  · cases hk : R.installed id with
    | none =>
      obtain ⟨hsame, hinstalled⟩ := hnone id hk
      rw [hsame, hholds.live id ha]
      simp only [Rounds.live, hk, hinstalled]
    | some k =>
      rw [hsome id k hk]
      exact (live_of_occupied hR hk installed paused).symm
  · dsimp only at ha
    cases hk : R.installed id with
    | none =>
      obtain ⟨hsame, hinstalled⟩ := hnone id hk
      rw [hsame]
      refine ⟨(hholds.announced id ha).1, fun h hh => ?_⟩
      exact absurd (hinstalled.symm.trans hh) (by simp)
    | some k =>
      rw [hsome id k hk]
      refine ⟨?_, fun h hh => hh⟩
      obtain hidle | heffect := hkeep
      · rw [hidle] at ha
        cases ha
      · obtain hsame | hcall := h.cases id
        · rw [hsame, hk]
          rfl
        · rw [hcall, hk]
          exact heffect k

/-! ## The steps of a worker -/

theorem Holds.clear (hholds : R.Holds objects) (hR : R.Fresh)
    (hobjects : ∀ id, (objects id).Sound) (h : R.Destroys calls) (paused : Bool) :
    CallsTo objects calls ⟨fun _ => none, R.stage, paused⟩ := by
  obtain ⟨result, hresult, hsound, hcalled, hrest⟩ := callAll_sound hobjects h.nodup
    (fun e he => by
      obtain ⟨hc, hsome, -⟩ := h.called e he
      obtain ⟨k, hk⟩ := Option.isSome_iff_exists.mp hsome
      rw [hholds.of_installed hR hk, hc]
      exact ⟨rfl, rfl⟩)
  refine ⟨result, hresult, hsound, fun _ => ⟨fun id ha => ?_, fun id ha => ?_⟩⟩
  · by_cases hid : id ∈ calls.map Prod.fst
    · obtain ⟨e, he, rfl⟩ := List.mem_map.mp hid
      obtain ⟨hc, hsome, -⟩ := h.called e he
      obtain ⟨k, hk⟩ := Option.isSome_iff_exists.mp hsome
      rw [hcalled e he, hc, hholds.of_installed hR hk]
      exact (live_of_occupied hR hk (fun _ => none) paused).symm
    · have hnone : R.installed id = none := by
        by_contra hne
        exact hid (h.all id (Option.isSome_iff_ne_none.mpr hne) ha)
      rw [hrest id hid, hholds.live id ha]
      simp only [Rounds.live, hnone]
  · have hid : id ∉ calls.map Prod.fst := by
      intro hid
      obtain ⟨e, he, rfl⟩ := List.mem_map.mp hid
      exact (h.called e he).2.2 ha
    rw [hrest id hid]
    exact ⟨(hholds.announced id ha).1, fun h hh => by cases hh⟩

/-- An exception leaves the worker with its installed handlers only. -/
theorem Holds.unwind (hholds : R.Holds objects) (hR : R.Fresh)
    (hobjects : ∀ id, (objects id).Sound) (paused : Bool) :
    CallsTo objects R.unwind ⟨R.installed, .stopped, paused⟩ := by
  have hidle (hb : ∀ id h, R.stage ≠ .building id h)
      (ha : ∀ id, R.stage.announced = some id → (R.installed id).isSome = true) :
      CallsTo objects [] ⟨R.installed, .stopped, paused⟩ := by
    refine callsTo_nil hobjects fun _ => ⟨fun id _ => ?_, fun id hid => by cases hid⟩
    by_cases hid : R.stage.announced = some id
    · obtain ⟨k, hk⟩ := Option.isSome_iff_exists.mp (ha id hid)
      exact ((hholds.announced id hid).2 k hk).trans hk.symm
    · rw [hholds.live id hid, live_of_not_building hb]
      rfl
  have hannounced (id : ℕ) (hid : R.stage.announced = some id)
      (hb : ∀ i h, R.stage ≠ .building i h) :
      CallsTo objects (if (R.installed id).isNone then [(id, .destruct)] else [])
        ⟨R.installed, .stopped, paused⟩ := by
    cases hk : R.installed id with
    | none =>
      obtain ⟨h, hh⟩ := Option.isSome_iff_exists.mp (hholds.announced id hid).1
      refine callsTo_one hobjects hh rfl (fun j hj => ?_) hk (fun j hj => by cases hj)
      rw [hholds.live j (by rw [hid]; simpa using Ne.symm hj), live_of_not_building hb]
      rfl
    | some k =>
      refine hidle hb fun j hj => ?_
      obtain rfl := Option.some.inj (hid.symm.trans hj)
      rw [hk]
      rfl
  unfold Rounds.unwind
  cases hstage : R.stage with
  | building id h =>
    refine callsTo_one hobjects (hholds.of_building hstage) rfl (fun j hj => ?_)
      (hR id h hstage).1 (fun j hj => by cases hj)
    rw [hholds.live j (by simp [hstage, Stage.announced]), live_of_building_ne hstage hj]
    rfl
  | starting id => exact hannounced id (by rw [hstage]; rfl) (by simp [hstage])
  | announcing id => exact hannounced id (by rw [hstage]; rfl) (by simp [hstage])
  | idle | stopped | crashed =>
    exact hidle (by simp [hstage]) (by simp [hstage, Stage.announced])

/-- No call of a worker's step blocks, and after the step the worker holds the handlers again. -/
theorem Holds.step (hholds : R.Holds objects) (hR : R.Fresh)
    (hobjects : ∀ id, (objects id).Sound) (h : R.Step cap kind calls R') :
    CallsTo objects calls R' := by
  cases h with
  | keep => exact callsTo_nil hobjects fun _ => hholds
  | resume => exact callsTo_nil hobjects fun _ => ⟨hholds.live, hholds.announced⟩
  | cut => exact callsTo_nil hobjects fun _ => ⟨hholds.live, hholds.announced⟩
  | clear paused h => exact hholds.clear hR hobjects h paused
  | release h _ => exact hholds.callsTo hR hobjects rfl h (.inr fun _ => rfl) true
  | stop paused => exact hholds.unwind hR hobjects paused
  | exits pid hidle h =>
    have := hholds.callsTo hR hobjects rfl h (.inr fun _ => rfl) R.paused
    rwa [hidle] at this
  | @cutExits _ _ paused pid hidle h =>
    have := hholds.callsTo hR hobjects rfl h (.inr fun _ => rfl) paused
    rwa [hidle] at this
  | finishes hidle h =>
    have := hholds.callsTo hR hobjects rfl h (.inl (by rw [hidle]; rfl)) R.paused
    rwa [hidle] at this
  | create id data hidle _ hfree =>
    have hlive (j : ℕ) : (objects j).handler = R.installed j := by
      rw [hholds.live j (by simp [hidle, Stage.announced]),
        live_of_not_building (by simp [hidle])]
    obtain ⟨S, hS, hsound, hhandler⟩ :=
      (hobjects id).call_construct ((hlive id).trans hfree) data
    refine ⟨Function.update objects id S, by simp [callAll, hS], fun j => ?_,
      fun _ => ⟨fun j _ => ?_, fun j hj => by cases hj⟩⟩
    · by_cases hj : j = id
      · rw [hj, Function.update_self]
        exact hsound
      · rw [Function.update_of_ne hj]
        exact hobjects j
    · by_cases hj : j = id
      · rw [hj, Function.update_self, hhandler, live_of_building rfl]
      · rw [Function.update_of_ne hj, hlive j, live_of_building_ne rfl hj]
  | @admission id h pid hasChild fromPark hstage _ =>
    refine callsTo_one hobjects (hholds.of_building hstage) rfl (fun j hj => ?_)
      (live_of_building rfl) (fun j hj => by cases hj)
    rw [hholds.live j (by simp [hstage, Stage.announced]), live_of_building_ne hstage hj,
      live_of_building_ne rfl hj]
  | @discard id h hstage _ =>
    refine callsTo_one hobjects (hholds.of_building hstage) rfl (fun j hj => ?_)
      (hR id h hstage).1 (fun j hj => by cases hj)
    rw [hholds.live j (by simp [hstage, Stage.announced]), live_of_building_ne hstage hj]
    rfl
  | @install id h hstage _ =>
    have hid := hholds.of_building hstage
    have hself : Function.update R.installed id (some h) id = some h := Function.update_self ..
    refine callsTo_nil hobjects fun _ => ⟨fun j hj => ?_, fun j hj => ?_⟩
    · have hne : j ≠ id := fun h => hj (by rw [h]; rfl)
      rw [hholds.live j (by simp [hstage, Stage.announced]), live_of_building_ne hstage hne]
      exact (Function.update_of_ne hne _ _).symm
    · obtain rfl := Option.some.inj hj
      exact ⟨by rw [hid]; rfl, fun k hk => hid.trans (hself.symm.trans hk)⟩
  | @start id h now hstage hh =>
    have ha : R.stage.announced = some id := by rw [hstage]; rfl
    have hself : Function.update R.installed id (some (h.startAttraction now)) id =
        some (h.startAttraction now) := Function.update_self ..
    refine callsTo_one hobjects ((hholds.announced id ha).2 h hh) rfl (fun j hj => ?_) hself
      (fun j hj => ?_)
    · rw [hholds.live j (by rw [ha]; simpa using Ne.symm hj),
        live_of_not_building (by simp [hstage])]
      exact (Function.update_of_ne hj _ _).symm
    · obtain rfl := Option.some.inj hj
      exact ⟨rfl, rfl, hself⟩
  | @announce id hstage hsome =>
    have ha : R.stage.announced = some id := by rw [hstage]; rfl
    obtain ⟨k, hk⟩ := Option.isSome_iff_exists.mp hsome
    refine callsTo_nil hobjects fun _ => ⟨fun j _ => ?_, fun j hj => by cases hj⟩
    by_cases hj : j = id
    · rw [hj, (hholds.announced id ha).2 k hk]
      exact hk.symm
    · rw [hholds.live j (by rw [ha]; simpa using Ne.symm hj),
        live_of_not_building (by simp [hstage])]
      rfl
  | crash => exact callsTo_nil hobjects fun hcrash => absurd rfl hcrash

/-- A worker that has left `Run` stays outside of it. -/
theorem Step.stopped (h : R.Step cap kind calls R') (hstage : R.stage = .stopped) :
    R'.stage = .stopped := by
  cases h with
  | keep | resume | clear | release => exact hstage
  | stop => rfl
  | crash ha _ =>
    rw [hstage] at ha
    cases ha
  | _ => simp_all

/-- A worker outside `Run` that holds no handlers gets none any more. -/
theorem Step.stopped_none (h : R.Step cap kind calls R') (hstage : R.stage = .stopped)
    (hnone : ∀ id, R.installed id = none) : ∀ id, R'.installed id = none := by
  intro id
  cases h with
  | keep | resume | stop => exact hnone id
  | clear => rfl
  | release h _ =>
    obtain hsame | heffect := h.cases id
    · exact hsame.trans (hnone id)
    · exact heffect.trans (by rw [hnone id]; rfl)
  | crash ha _ =>
    rw [hstage] at ha
    cases ha
  | _ => simp_all

end Rounds
end AmusementPark.Worker
