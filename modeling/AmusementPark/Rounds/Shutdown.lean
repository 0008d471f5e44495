import AmusementPark.Rounds.Closing
import AmusementPark.Worker.RoundsProcess

/-! # Leave semaphores over the whole life of a worker process

The laws of `Worker/RoundsProcess` for attraction and restaurant. The attraction
closes its handlers in `pCloseImpl`; the restaurant leaves the last one to its
static object, which outlives the semaphore array.
-/
namespace AmusementPark
open Library Worker Attraction Restaurant

variable {C : Type*} [DecidableEq C]

/-- In every run of an attraction process or of the restaurant process the leave semaphore of an
unreleased handler is 0, and no release blocks the worker. -/
theorem leavesOnRelease_attraction_restaurant {attractionCfg : AttractionConfig}
    (hcount : attractionCfg.handlerCount < 2 ^ 8) (restaurantCfg : AttractionConfig)
    (attractionID tokens : ℕ) (initialised : Except Exn Unit) (values : ℕ → ℕ)
    (as : List (ProcessAction (AttractionAction C)))
    (rs : List (ProcessAction (RestaurantAction C))) :
    (AttractionSystem.program C attractionCfg).process.Always
        (AttractionSystem.program C attractionCfg).LeavesOnRelease
        (.launch (.start attractionID attractionCfg tokens initialised) values) as ∧
      (RestaurantSystem.program C restaurantCfg).process.Always
        (RestaurantSystem.program C restaurantCfg).LeavesOnRelease
        (.launch (.start tokens initialised) values) rs :=
  ⟨RoundsProgram.leavesOnRelease_always
      (AttractionSystem.start_starts attractionID hcount tokens initialised) values as,
    RoundsProgram.leavesOnRelease_always
      (RestaurantSystem.start_starts restaurantCfg tokens initialised) values rs⟩

/-- A round with a client that tries to leave before and after the closing order. -/
def releasedRoundRun : List (ProcessAction (AttractionAction Unit)) :=
  [.run (.mailbox (.send () 0 entryRequest)), .run (.mailbox (.signal ())), .run (.check 0),
    .run (.wake true), .run (.finishCheck 0), .run .testPaused, .run .handle, .run .decide,
    .run .create, .run (.register (.faultless 7 0)), .run (.register (.faultless 7 0)),
    .run .install, .run (.start 0), .run (.announce (.ok ())), .run (.sigUsr1 (.ok ())), .wait 20]

/-- The semaphore held three tokens before the round; its one client finds one token and takes
it. -/
theorem releasedRound_leavesOnRelease :
    (AttractionSystem.program Unit ⟨30, 20, 1, true, 120, -1, -1, -1⟩).process.Always
        (AttractionSystem.program Unit ⟨30, 20, 1, true, 120, -1, -1, -1⟩).LeavesOnRelease
        (.launch (.start 0 ⟨30, 20, 1, true, 120, -1, -1, -1⟩ 0 (.ok ())) fun _ => 3)
        releasedRoundRun ∧
      ((AttractionSystem.program Unit ⟨30, 20, 1, true, 120, -1, -1, -1⟩).process.exec
        (.launch (.start 0 ⟨30, 20, 1, true, 120, -1, -1, -1⟩ 0 (.ok ())) fun _ => 3)
        releasedRoundRun).map (fun P => P.objects 20) = some ⟨0, none, 1, 1⟩ :=
  ⟨(leavesOnRelease_attraction_restaurant (C := Unit)
      (show (⟨30, 20, 1, true, 120, -1, -1, -1⟩ : AttractionConfig).handlerCount < 2 ^ 8 by decide)
      ⟨60, 50, 1, true, -1, -1, -1, -1⟩ 0 0 (.ok ()) (fun _ => 3) _ []).1, rfl⟩

/-- In every run all handlers run `ReleaseClients` before their semaphore array is gone, exactly
as long as the array is never dropped before an unreleased handler; the attraction's `pCloseImpl`
sees to that unless an exception cuts it short. -/
theorem releasedInTime_iff_dropsReleased {attractionCfg : AttractionConfig}
    (hcount : attractionCfg.handlerCount < 2 ^ 8) (restaurantCfg : AttractionConfig)
    (attractionID tokens : ℕ) (initialised : Except Exn Unit) (values : ℕ → ℕ)
    (as : List (ProcessAction (AttractionAction C)))
    (rs : List (ProcessAction (RestaurantAction C))) :
    ((AttractionSystem.program C attractionCfg).process.Always RoundsProgram.ReleasedInTime
        (.launch (.start attractionID attractionCfg tokens initialised) values) as ↔
      (AttractionSystem.program C attractionCfg).process.Meets
        (AttractionSystem.program C attractionCfg).DropsReleased
        (.launch (.start attractionID attractionCfg tokens initialised) values) as) ∧
    ((AttractionSystem.program C attractionCfg).process.Meets
        (fun _ a => a.interruptsClose = false)
        (.launch (.start attractionID attractionCfg tokens initialised) values) as →
      (AttractionSystem.program C attractionCfg).process.Always RoundsProgram.ReleasedInTime
        (.launch (.start attractionID attractionCfg tokens initialised) values) as) ∧
    ((RestaurantSystem.program C restaurantCfg).process.Always RoundsProgram.ReleasedInTime
        (.launch (.start tokens initialised) values) rs ↔
      (RestaurantSystem.program C restaurantCfg).process.Meets
        (RestaurantSystem.program C restaurantCfg).DropsReleased
        (.launch (.start tokens initialised) values) rs) := by
  have hattraction := AttractionSystem.start_starts (C := C) attractionID hcount tokens initialised
  have hrestaurant := RestaurantSystem.start_starts (C := C) restaurantCfg tokens initialised
  have hclose (s : AttractionSystem C) (id : ℕ) : s.pCloseHandlers.rounds.installed id = none := by
    rw [AttractionSystem.pCloseHandlers_rounds]
  exact ⟨RoundsProgram.releasedInTime_iff hattraction values as,
    RoundsProgram.releasedInTime_of_closes hattraction hclose values as,
    RoundsProgram.releasedInTime_iff hrestaurant values rs⟩

/-- An attraction whose park closes during a pause. -/
theorem pausedShutdown_releasedInTime :
    (AttractionSystem.program Unit ⟨30, 20, 1, true, 120, -1, -1, -1⟩).process.Always
      RoundsProgram.ReleasedInTime
      (.launch (.start 0 ⟨30, 20, 1, true, 120, -1, -1, -1⟩ 0 (.ok ())) fun _ => 3)
      (releasedRoundRun ++ [.run .create, .run .closePark, .run (.check 1), .pCloseImpl, .dropArray,
        .destroyStatics]) :=
  (releasedInTime_iff_dropsReleased (C := Unit)
    (show (⟨30, 20, 1, true, 120, -1, -1, -1⟩ : AttractionConfig).handlerCount < 2 ^ 8 by decide)
    ⟨60, 50, 1, true, -1, -1, -1, -1⟩ 0 0 (.ok ()) (fun _ => 3) _ []).2.1 (by decide)

/-- The last guest leaves after the park has closed; then the process ends. -/
def emptyRoundRun : List (ProcessAction (RestaurantAction Unit)) :=
  [.run (.mailbox (.send () 0 tableRequest)), .run (.mailbox (.signal ())), .run (.check 0),
    .run (.wake true), .run (.finishCheck 0), .run (.handle (.faultless 7 0)), .run .decide,
    .run (.register (.faultless 7 0)), .run (.register (.faultless 7 0)), .run .install,
    .run (.start 0), .run (.announce (.ok ())), .run .closePark,
    .run (.mailbox (.send () 1 ⟨7, .exitRestaurant, .emptyMessage⟩)),
    .run (.mailbox (.signal ())), .run (.check 1), .run (.wake true), .run (.finishCheck 1),
    .run (.handle (.faultless 7 1)), .run .decide, .run (.check 1), .pCloseImpl, .dropArray]

/-- The loop ends with an empty handler in `m_handler`, and the array is dropped before it. -/
theorem emptyRound_unreleased :
    ∃ P h, (RestaurantSystem.program Unit ⟨60, 50, 1, true, -1, -1, -1, -1⟩).process.exec
        (.launch (.start 0 (.ok ())) fun _ => 0) emptyRoundRun = some P ∧
      P.phase = .arrayDropped ∧ P.worker.proc.handler = some h ∧ h.released = false ∧
      (P.objects leaveSemaphore).constructed = 1 ∧ (P.objects leaveSemaphore).released = 0 :=
  ⟨_, _, rfl, rfl, rfl, rfl, rfl, rfl⟩

end AmusementPark
