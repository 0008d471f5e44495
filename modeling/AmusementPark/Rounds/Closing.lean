import AmusementPark.Attraction.HandlerCalls
import AmusementPark.Restaurant.HandlerCalls
import AmusementPark.WakeUps.Attraction

/-! # Closing orders and the rounds of the two workers

Both workers test `paused` before they begin a new round, and a closing order
releases the rounds that are installed. A round that is being filled when the
order arrives is seen by neither: it is installed and started all the same, and
so is one that is installed but not started yet. An order whose log message
throws inside a `try` block releases nothing. What the two workers keep whatever
the signals do is their room.
-/
namespace AmusementPark
open Library Worker Attraction Restaurant

variable {C : Type*} [DecidableEq C]

/-- A paused attraction or restaurant has only released handlers and has started none during a
pause, in every run and exactly as long as no round is installed or started during a pause and no
closing order is cut off while an installed handler is unreleased. -/
theorem runsNoneClosed_iff_keepsClosed {attractionCfg : AttractionConfig}
    (hcount : attractionCfg.handlerCount < 2 ^ 8) (restaurantCfg : AttractionConfig)
    (attractionID tokens : ℕ) (as : List (AttractionAction C)) (rs : List (RestaurantAction C)) :
    ((AttractionSystem.program C attractionCfg).closingMachine.Always
        (AttractionSystem.program C attractionCfg).RunsNoneClosed
        (.init attractionID attractionCfg tokens, []) as ↔
      (AttractionSystem.program C attractionCfg).closingMachine.Meets
        (AttractionSystem.program C attractionCfg).KeepsClosed
        (.init attractionID attractionCfg tokens, []) as) ∧
    ((RestaurantSystem.program C restaurantCfg).closingMachine.Always
        (RestaurantSystem.program C restaurantCfg).RunsNoneClosed (.init tokens, []) rs ↔
      (RestaurantSystem.program C restaurantCfg).closingMachine.Meets
        (RestaurantSystem.program C restaurantCfg).KeepsClosed (.init tokens, []) rs) :=
  ⟨RoundsProgram.runsNoneClosed_iff
      (AttractionSystem.start_starts attractionID hcount tokens (.ok ())) as,
    RoundsProgram.runsNoneClosed_iff
      (RestaurantSystem.start_starts restaurantCfg tokens (.ok ())) rs⟩

/-- A client asks for a table, of people who have paid for the park. -/
def tableRequest : RestaurantMQMessage := ⟨7, .enterRestaurant, .enterRestaurant ⟨false, true⟩⟩

/-- Rounds that begin before a pause, and a pause that ends before the next one begins. -/
theorem orderlyPauses_runsNoneClosed :
    (AttractionSystem.program Unit ⟨30, 20, 1, true, 120, -1, -1, -1⟩).closingMachine.Always
        (AttractionSystem.program Unit ⟨30, 20, 1, true, 120, -1, -1, -1⟩).RunsNoneClosed
        (.init 0 ⟨30, 20, 1, true, 120, -1, -1, -1⟩ 0, [])
        [.mailbox (.send () 0 entryRequest), .mailbox (.signal ()), .check 0, .wake true,
          .finishCheck 0, .testPaused, .handle, .decide, .create,
          .register (.faultless 7 0), .register (.faultless 7 0), .install, .start 0,
          .announce (.ok ()), .create, .sigUsr1 (.ok ()), .sigUsr2 (.ok ())] ∧
      (RestaurantSystem.program Unit ⟨60, 50, 1, true, -1, -1, -1, -1⟩).closingMachine.Always
        (RestaurantSystem.program Unit ⟨60, 50, 1, true, -1, -1, -1, -1⟩).RunsNoneClosed
        (.init 0, [])
        [.mailbox (.send () 0 tableRequest), .mailbox (.signal ()), .check 0, .wake true,
          .finishCheck 0, .handle (.faultless 7 0), .decide, .register (.faultless 7 0),
          .register (.faultless 7 0), .install, .start 0, .announce (.ok ()),
          .sigUsr1 (.ok ()), .sigUsr2 (.ok ())] := by
  have h := runsNoneClosed_iff_keepsClosed (C := Unit)
    (show (⟨30, 20, 1, true, 120, -1, -1, -1⟩ : AttractionConfig).handlerCount < 2 ^ 8 by decide)
    ⟨60, 50, 1, true, -1, -1, -1, -1⟩ 0 0
  exact ⟨(h _ []).1.mpr (.mono (fun _ _ => RoundsProgram.BeginsOpen.keepsClosed) (by decide)),
    (h [] _).2.mpr (.mono (fun _ _ => RoundsProgram.BeginsOpen.keepsClosed) (by decide))⟩

/-- A closing order arrives while the attraction registers a client into a new handler. -/
def closedWhileFillingRun : List (AttractionAction Unit) :=
  [.mailbox (.send () 0 entryRequest), .mailbox (.signal ()), .check 0, .wake true,
    .finishCheck 0, .testPaused, .handle, .decide, .create, .register (.faultless 7 0),
    .sigUsr1 (.ok ()), .register (.faultless 7 0), .install, .start 0, .announce (.ok ()), .create]

/-- The same at the restaurant. -/
def restaurantClosedWhileFillingRun : List (RestaurantAction Unit) :=
  [.mailbox (.send () 0 tableRequest), .mailbox (.signal ()), .check 0, .wake true,
    .finishCheck 0, .handle (.faultless 7 0), .decide, .register (.faultless 7 0),
    .sigUsr1 (.ok ()), .register (.faultless 7 0), .install, .start 0, .announce (.ok ())]

/-- A closing order arrives between the installation of a round of the restaurant and its
start. -/
def closedBeforeStartRun : List (RestaurantAction Unit) :=
  [.mailbox (.send () 0 tableRequest), .mailbox (.signal ()), .check 0, .wake true,
    .finishCheck 0, .handle (.faultless 7 0), .decide, .register (.faultless 7 0),
    .register (.faultless 7 0), .install, .sigUsr1 (.ok ()), .start 0, .announce (.ok ())]

/-- A wagon is on its way when the log message of a closing order throws while the next one is
being filled. -/
def closingLogFailsRun : List (AttractionAction Unit) :=
  [.mailbox (.send () 0 entryRequest), .mailbox (.signal ()), .check 0, .wake true,
    .finishCheck 0, .testPaused, .handle, .decide, .create, .register (.faultless 7 0),
    .register (.faultless 7 0), .install, .start 0, .announce (.ok ()), .create,
    .register (.faultless 7 0), .install,
    .mailbox (.send () 0 { entryRequest with senderPID := 8 }), .mailbox (.signal ()), .check 1,
    .wake true, .finishCheck 1, .testPaused, .handle, .decide, .create,
    .registerThrows true (.ok ()), .register (.faultless 8 1), .install]

/-- At the next loop head the worker is paused and runs a round; in the third run it has started
one that had been released. -/
theorem closedWhileFilling_runs :
    (∃ s h, (AttractionSystem.machine Unit ⟨30, 20, 1, true, 120, -1, -1, -1⟩).exec
        (.init 0 ⟨30, 20, 1, true, 120, -1, -1, -1⟩ 0) closedWhileFillingRun = some s ∧
      s.point = .loopHead ∧ s.proc.paused = true ∧ s.rounds.installed 20 = some h ∧
      h.started = true ∧ h.released = false) ∧
    (∃ s h, (RestaurantSystem.machine Unit ⟨60, 50, 1, true, -1, -1, -1, -1⟩).exec
        (.init 0) restaurantClosedWhileFillingRun = some s ∧
      s.point = .loopHead ∧ s.proc.paused = true ∧ s.proc.handler = some h ∧
      h.started = true ∧ h.released = false) ∧
    (∃ x, (RestaurantSystem.program Unit ⟨60, 50, 1, true, -1, -1, -1, -1⟩).closingMachine.exec
        (.init 0, []) closedBeforeStartRun = some x ∧
      x.1.point = .loopHead ∧ x.1.proc.paused = true ∧ x.2 = [leaveSemaphore]) ∧
    ∃ s h, (AttractionSystem.machine Unit ⟨30, 20, 2, true, 120, -1, -1, -1⟩).exec
        (.init 0 ⟨30, 20, 2, true, 120, -1, -1, -1⟩ 0) closingLogFailsRun = some s ∧
      s.point = .loopHead ∧ s.proc.paused = true ∧ s.rounds.installed 20 = some h ∧
      h.started = true ∧ h.released = false :=
  ⟨⟨_, _, rfl, rfl, rfl, rfl, rfl, rfl⟩, ⟨_, _, rfl, rfl, rfl, rfl, rfl, rfl⟩,
    ⟨_, rfl, rfl, rfl, rfl⟩, ⟨_, _, rfl, rfl, rfl, rfl, rfl, rfl⟩⟩

/-- No handler of either worker ever holds more people than it has room for, only handlers with
clients are started, and nobody is added to a started handler. -/
theorem capacity_and_frozen_rosters {attractionCfg : AttractionConfig}
    (hcount : attractionCfg.handlerCount < 2 ^ 8) (restaurantCfg : AttractionConfig)
    (attractionID tokens : ℕ) (as : List (AttractionAction C)) (rs : List (RestaurantAction C)) :
    ((AttractionSystem.machine C attractionCfg).Always
        (fun s => s.rounds.WithinCapacity attractionCfg.maxClientsPerHandler)
        (.init attractionID attractionCfg tokens) as ∧
      (AttractionSystem.machine C attractionCfg).Meets
        (fun s a => ∀ t, AttractionSystem.step attractionCfg s a = some t →
          Rounds.Frozen s.rounds t.rounds) (.init attractionID attractionCfg tokens) as) ∧
    ((RestaurantSystem.machine C restaurantCfg).Always
        (fun s => s.rounds.WithinCapacity restaurantCfg.maxClientsPerHandler)
        (.init tokens) rs ∧
      (RestaurantSystem.machine C restaurantCfg).Meets
        (fun s a => ∀ t, RestaurantSystem.step restaurantCfg s a = some t →
          Rounds.Frozen s.rounds t.rounds) (.init tokens) rs) :=
  ⟨RoundsProgram.capacity_always
      (AttractionSystem.start_starts attractionID hcount tokens (.ok ())) as,
    RoundsProgram.capacity_always
      (RestaurantSystem.start_starts restaurantCfg tokens (.ok ())) rs⟩

/-- Two requests for the one place of a round. -/
def onePlaceRun : List (AttractionAction Unit) :=
  [.mailbox (.send () 0 entryRequest), .mailbox (.signal ()), .mailbox (.send () 0 entryRequest),
    .check 0, .wake true, .finishCheck 0, .testPaused, .handle, .decide, .check 0, .wake false,
    .finishCheck 0, .testPaused, .handle, .decide, .create, .register (.faultless 7 0),
    .register (.faultless 7 0), .install, .start 0, .announce (.ok ())]

/-- The second request waits for the next round. -/
theorem onePlaceRun_withinCapacity :
    (AttractionSystem.machine Unit ⟨30, 1, 1, true, 120, -1, -1, -1⟩).Always
        (fun s => s.rounds.WithinCapacity 1) (.init 0 ⟨30, 1, 1, true, 120, -1, -1, -1⟩ 0)
        onePlaceRun ∧
      ∃ s, (AttractionSystem.machine Unit ⟨30, 1, 1, true, 120, -1, -1, -1⟩).exec
          (.init 0 ⟨30, 1, 1, true, 120, -1, -1, -1⟩ 0) onePlaceRun = some s ∧
        (s.rounds.installed 20).map (·.getClientCount) = some 1 ∧ s.proc.enterQueue.length = 1 :=
  ⟨(capacity_and_frozen_rosters (C := Unit)
      (show (⟨30, 1, 1, true, 120, -1, -1, -1⟩ : AttractionConfig).handlerCount < 2 ^ 8 by decide)
      ⟨60, 50, 1, true, -1, -1, -1, -1⟩ 0 0 _ []).1.1, ⟨_, rfl, rfl, rfl⟩⟩

end AmusementPark
