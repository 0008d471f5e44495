import AmusementPark.Rounds.ClosingPosts

/-! # The last steps of a worker

Once a worker has nothing more to wait for, a bound on the steps that are left
to it can be read off the place where it stands and the requests that wait: it
refuses each of them once and leaves its loop at the next test of the condition.
-/
namespace AmusementPark
open Library Worker

namespace Attraction

/-- A step of `Run`, as opposed to one of a client, of the manager or of a signal. -/
def AttractionAction.own {C : Type*} : AttractionAction C → ℕ
  | .mailbox _ | .closePark | .sigUsr1 _ | .sigUsr2 _ => 0
  | _ => 1

/-- Nobody is admitted in a closed park, and no request stops the filling. -/
theorem AttractionProc.pRegisterClient_closed (cfg : AttractionConfig)
    (message : AttractionMQMessage) (x : ReplyOutcome) (p : AttractionProc)
    (h : AttractionHandler) :
    (pRegisterClient false cfg message x p h).1 ≠ .ok false ∧
      (pRegisterClient false cfg message x p h).2 = h := by
  unfold pRegisterClient
  cases message.content with
  | emptyMessage => cases x.caught <;> simp [Except.map]
  | enterAttraction content =>
    rcases hhand : x.permitHandshake false with e | _ | _
    · cases x.caught <;> simp [hhand, Except.map]
    · simp [hhand]
    · exact absurd (ReplyOutcome.permitHandshake_eq_true.mp hhand).1 Bool.false_ne_true

theorem AttractionProc.enterQueue_pHandleAttractionMQ_le (clientMsg : AttractionMQMessage)
    (p : AttractionProc) :
    (pHandleAttractionMQ clientMsg p).enterQueue.length ≤ p.enterQueue.length + 1 := by
  unfold pHandleAttractionMQ
  cases clientMsg.mType with
  | enterAttraction => simp [pHandleEnterAttraction]
  | exitAttraction => exact Nat.le_succ _
  | other raw => exact Nat.le_succ _

namespace AttractionSystem
variable {C : Type*} [DecidableEq C]

/-- `Run` is left, or the process has died at a null handler. -/
def Ended (s : AttractionSystem C) : Prop := s.point = .stopped ∨ s.point = .crashed

/-- A bound on the own steps that are left in a closed park. -/
def stepsLeft (s : AttractionSystem C) : ℕ :=
  let n := s.proc.enterQueue.length
  match s.point with
  | .stopped | .crashed => 0
  | .loopHead => 1
  | .waiting _ => n + 10
  | .woken _ => n + 9
  | .checked _ => n + 8
  | .receiving _ => n + 7
  | .deciding => n + 5
  | .creating => n + 4
  -- a wagon that has been boarded before the closing still starts, and the next one stays empty
  | .filling _ newHandler => if newHandler.isEmpty then n + 3 else n + 8
  | .installing _ newHandler => if newHandler.isEmpty then 2 else n + 7
  | .starting _ => n + 6
  | .announcing _ => n + 5

omit [DecidableEq C] in
theorem fill_closed {s : AttractionSystem C} (hclosed : s.isOpen = false) (cfg : AttractionConfig)
    (id : ℕ) (newHandler : AttractionHandler) (x : ReplyOutcome) :
    (s.fill cfg id newHandler x).stepsLeft + 1 ≤
      if newHandler.isEmpty then s.proc.enterQueue.length + 3
      else s.proc.enterQueue.length + 8 := by
  unfold fill
  cases hq : s.proc.enterQueue with
  | nil => grind [stepsLeft]
  | cons message rest =>
    obtain ⟨hnotFalse, hkeep⟩ :=
      AttractionProc.pRegisterClient_closed cfg message x s.proc newHandler
    rw [hclosed]
    dsimp only
    split
    · grind [stepsLeft]
    · exact absurd ‹_› hnotFalse
    · rw [hkeep]
      grind [stepsLeft]

theorem stepsLeft_step {cfg : AttractionConfig} {s t : AttractionSystem C}
    {a : AttractionAction C} (hclosed : s.isOpen = false) (h : step cfg s a = some t) :
    a.own + t.stepsLeft ≤ s.stepsLeft := by
  cases a with
  | mailbox a =>
    obtain ⟨m, -, rfl⟩ := Option.map_eq_some_iff.mp h
    exact (Nat.zero_add _).le
  | closePark =>
    obtain rfl := Option.some.inj h
    exact (Nat.zero_add _).le
  | sigUsr1 logged | sigUsr2 logged =>
    obtain rfl := Option.some.inj h
    cases logged with
    | error e => exact Nat.zero_le _
    | ok u => exact (Nat.zero_add _).le
  | register x =>
    cases hpoint : s.point with
    | filling id newHandler =>
      simp only [step, hpoint, Option.some.injEq] at h
      have hfill := fill_closed hclosed cfg id newHandler x
      rw [h] at hfill
      grind [stepsLeft, AttractionAction.own]
    | _ => simp [step, hpoint] at h
  | handle =>
    cases hpoint : s.point with
    | receiving token =>
      rcases hreceive : s.mailbox.receive with ⟨_ | msg, m⟩
      · simp only [step, hpoint, hreceive, Option.some.injEq] at h
        grind [stepsLeft, AttractionAction.own]
      · simp only [step, hpoint, hreceive, Option.some.injEq] at h
        have hqueue := AttractionProc.enterQueue_pHandleAttractionMQ_le msg s.proc
        grind [stepsLeft, AttractionAction.own]
    | _ => simp [step, hpoint] at h
  | registerThrows paused caught =>
    obtain ⟨id, newHandler, message, rest, hpoint, hqueue, rfl⟩ := registerThrows_step h
    cases caught <;> simp only [logging, stepsLeft, hpoint, hqueue, AttractionAction.own,
      List.length_cons] <;> split <;> omega
  | announce logged => grind [step, stepsLeft, AttractionAction.own, logging_cases]
  | create =>
    have hnew : ∀ id, (AttractionHandler.construct (handlerData cfg id)).isEmpty = true :=
      fun _ => rfl
    grind [step, stepsLeft, AttractionAction.own]
  | _ => grind [step, stepsLeft, AttractionAction.own, Mailbox.take]

omit [DecidableEq C] in
theorem stepsLeft_le (s : AttractionSystem C) : s.stepsLeft ≤ s.proc.enterQueue.length + 10 := by
  unfold stepsLeft
  grind

omit [DecidableEq C] in
theorem ended_of_stepsLeft {s : AttractionSystem C} (h : s.stepsLeft = 0) : s.Ended := by
  unfold stepsLeft at h
  grind [Ended]

/-- The next step of `Run`; out of `Wait` it is one that a token, a signal or the timeout brings. -/
theorem next_own (cfg : AttractionConfig) {s : AttractionSystem C} (hs : ¬ s.Ended) :
    ∃ a : AttractionAction C, 0 < a.own ∧ ((machine C cfg).step s a).isSome = true := by
  cases hpoint : s.point with
  | loopHead => exact ⟨.check 0, Nat.one_pos, by simp [machine, step, hpoint]⟩
  | waiting timeout => exact ⟨.wake false, Nat.one_pos, by simp [machine, step, hpoint]⟩
  | woken token => exact ⟨.finishCheck 0, Nat.one_pos, by simp [machine, step, hpoint]⟩
  | checked token => exact ⟨.testPaused, Nat.one_pos, by simp [machine, step, hpoint]⟩
  | receiving token =>
    refine ⟨.handle, Nat.one_pos, ?_⟩
    rcases hreceive : s.mailbox.receive with ⟨_ | msg, m⟩ <;>
      simp [machine, step, hpoint, hreceive]
  | deciding => exact ⟨.decide, Nat.one_pos, by simp [machine, step, hpoint]⟩
  | creating =>
    refine ⟨.create, Nat.one_pos, ?_⟩
    cases hpaused : s.proc.paused with
    | true => simp [machine, step, hpoint, hpaused]
    | false => cases hfree : s.proc.handlers.firstFree <;>
        simp [machine, step, hpoint, hpaused, hfree]
  | filling id newHandler =>
    exact ⟨.register (.faultless 0 0), Nat.one_pos, by simp [machine, step, hpoint]⟩
  | installing id newHandler =>
    refine ⟨.install, Nat.one_pos, ?_⟩
    cases hempty : newHandler.isEmpty <;> simp [machine, step, hpoint, hempty]
  | starting id =>
    refine ⟨.start 0, Nat.one_pos, ?_⟩
    cases hget : s.proc.handlers.get id <;> simp [machine, step, hpoint, hget]
  | announcing id =>
    refine ⟨.announce (.ok ()), Nat.one_pos, ?_⟩
    cases hget : s.proc.handlers.get id <;> simp [machine, step, hpoint, hget]
  | stopped => exact absurd (.inl hpoint) hs
  | crashed => exact absurd (.inr hpoint) hs

/-- In a closed park an attraction ends. -/
theorem endsWithin (cfg : AttractionConfig) {s : AttractionSystem C} (hclosed : s.isOpen = false) :
    (machine C cfg).EndsWithin AttractionAction.own Ended (s.proc.enterQueue.length + 10) s := by
  apply Machine.endsWithin_of_potential (I := fun s => s.isOpen = false) ?_ ?_ ?_ hclosed
    s.stepsLeft_le
  · exact fun _ _ _ hs h => ⟨isOpen_of_step h hs, stepsLeft_step hs h⟩
  · exact fun _ => ended_of_stepsLeft
  · exact fun _ _ hs => next_own cfg hs

end AttractionSystem
end Attraction

namespace Restaurant

/-- A step of `Run`, as opposed to one of a client, of the manager or of a signal. -/
def RestaurantAction.own {C : Type*} : RestaurantAction C → ℕ
  | .mailbox _ | .closePark | .sigUsr1 _ | .sigUsr2 _ | .sigInt => 0
  | _ => 1

/-- Nobody is admitted in a closed park, and no request stops the filling. -/
theorem RestaurantProc.pRegisterClient_closed (cfg : AttractionConfig)
    (message : RestaurantMQMessage) (x : ReplyOutcome) (h : AttractionHandler) :
    (pRegisterClient false cfg message x h).1 ≠ .ok false ∧
      (pRegisterClient false cfg message x h).2 = h := by
  constructor
  · unfold pRegisterClient
    cases message.content with
    | emptyMessage => cases x.caught <;> simp [Except.map]
    | enterRestaurant content =>
      rcases x.permitHandshake false with e | _ | _
      · cases x.caught <;> simp [Except.map]
      · simp
      · simp
  · obtain ⟨-, -, hopen, -⟩ | hkeep := pRegisterClient_state false cfg message x h
    · cases hopen
    · exact hkeep

theorem RestaurantProc.enterQueue_pHandleRestaurantMQ_le (clientMsg : RestaurantMQMessage)
    (x : ReplyOutcome) (r : RestaurantProc) :
    (pHandleRestaurantMQ clientMsg x r).1.enterQueue.length ≤ r.enterQueue.length + 1 := by
  unfold pHandleRestaurantMQ
  cases clientMsg.mType with
  | enterRestaurant => simp [pHandleEnterRestaurant]
  | exitRestaurant =>
    dsimp only
    split <;> exact Nat.le_succ _
  | other raw => exact Nat.le_succ _

namespace RestaurantSystem
variable {C : Type*} [DecidableEq C]

/-- The park is closed, and nobody is inside or being let in. -/
structure Vacated (s : RestaurantSystem C) : Prop where
  closed : s.isOpen = false
  empty : ∀ h, s.proc.handler = some h → h.isEmpty = true
  filling : ∀ h, s.point = .filling h ∨ s.point = .installing h → h.isEmpty = true

/-- `Run` is left. -/
def Ended (s : RestaurantSystem C) : Prop := s.point = .stopped

/-- A bound on the own steps that are left to a vacated restaurant. -/
def stepsLeft (s : RestaurantSystem C) : ℕ :=
  let n := s.proc.enterQueue.length
  match s.point with
  | .stopped => 0
  | .loopHead => 1
  | .waiting _ => n + 8
  | .woken _ => n + 7
  | .checked _ => n + 6
  | .deciding => n + 4
  | .filling _ => n + 3
  | .installing _ => 2
  | .starting => 3
  | .announcing => 2

omit [DecidableEq C] in
theorem fill_vacated {s : RestaurantSystem C} (hclosed : s.isOpen = false)
    (cfg : AttractionConfig) {newHandler : AttractionHandler} (hnew : newHandler.isEmpty = true)
    (x : ReplyOutcome) :
    (s.fill cfg newHandler x).stepsLeft + 1 ≤ s.proc.enterQueue.length + 3 ∧
      (s.fill cfg newHandler x).isOpen = false ∧
      (s.fill cfg newHandler x).proc.handler = s.proc.handler ∧
      ∀ h, (s.fill cfg newHandler x).point = .filling h ∨
        (s.fill cfg newHandler x).point = .installing h → h.isEmpty = true := by
  unfold fill
  cases hq : s.proc.enterQueue with
  | nil => grind [stepsLeft]
  | cons message rest =>
    obtain ⟨hnotFalse, hkeep⟩ := RestaurantProc.pRegisterClient_closed cfg message x newHandler
    rw [hclosed]
    dsimp only
    split
    · grind [stepsLeft]
    · exact absurd ‹_› hnotFalse
    · rw [hkeep]
      grind [stepsLeft]

omit [DecidableEq C] in
/-- Messages let nobody into the current round. -/
theorem empty_pHandleRestaurantMQ {r : RestaurantProc}
    (hempty : ∀ h, r.handler = some h → h.isEmpty = true) (clientMsg : RestaurantMQMessage)
    (x : ReplyOutcome) :
    ∀ h, (RestaurantProc.pHandleRestaurantMQ clientMsg x r).1.handler = some h →
      h.isEmpty = true := by
  by_cases hexit : clientMsg.mType = .exitRestaurant
  · rw [RestaurantProc.pHandleRestaurantMQ_exit clientMsg x r hexit]
    intro h hh
    obtain ⟨handler, hhandler, rfl⟩ := Option.map_eq_some_iff.mp hh
    have hnone : handler.clientList.entries = [] := List.isEmpty_iff.mp (hempty handler hhandler)
    change (handler.clientList.entries.kerase clientMsg.senderPID).isEmpty = true
    rw [hnone]
    rfl
  · rw [RestaurantProc.pHandleRestaurantMQ_other clientMsg x r hexit]
    exact hempty

theorem vacated_step {cfg : AttractionConfig} {s t : RestaurantSystem C}
    {a : RestaurantAction C} (hs : s.Vacated) (h : step cfg s a = some t) :
    t.Vacated ∧ a.own + t.stepsLeft ≤ s.stepsLeft := by
  obtain ⟨hclosed, hempty, hfilling⟩ := hs
  cases a with
  | mailbox a =>
    obtain ⟨m, -, rfl⟩ := Option.map_eq_some_iff.mp h
    exact ⟨⟨hclosed, hempty, hfilling⟩, (Nat.zero_add _).le⟩
  | closePark | sigInt =>
    obtain rfl := Option.some.inj h
    exact ⟨⟨by first | rfl | exact hclosed, hempty, hfilling⟩, (Nat.zero_add _).le⟩
  | sigUsr1 logged =>
    obtain rfl := Option.some.inj h
    cases logged with
    | error e => exact ⟨⟨hclosed, hempty, by simp [logging]⟩, Nat.zero_le _⟩
    | ok u =>
      refine ⟨⟨hclosed, fun h hh => ?_, hfilling⟩, (Nat.zero_add _).le⟩
      obtain ⟨handler, hhandler, rfl⟩ := Option.map_eq_some_iff.mp hh
      have hnone := hempty handler hhandler
      rwa [AttractionHandler.isEmpty, ← AttractionHandler.releaseClients_clientList] at hnone
  | sigUsr2 logged =>
    obtain rfl := Option.some.inj h
    cases logged with
    | error e => exact ⟨⟨hclosed, hempty, by simp [logging]⟩, Nat.zero_le _⟩
    | ok u => exact ⟨⟨hclosed, hempty, hfilling⟩, (Nat.zero_add _).le⟩
  | check now =>
    have hcontinues : s.continues = false := by
      unfold continues
      cases hhandler : s.proc.handler with
      | none => simp [hclosed]
      | some handler => simp [hclosed, hempty handler hhandler]
    simp only [step, hcontinues, Option.ite_none_right_eq_some, Option.some.injEq] at h
    obtain ⟨hpoint, rfl⟩ := h
    exact ⟨⟨hclosed, hempty, by simp⟩, by simp [stepsLeft, RestaurantAction.own, hpoint]⟩
  | handle x =>
    cases hpoint : s.point with
    | checked token =>
      rcases hreceive : s.mailbox.receive with ⟨_ | msg, m⟩
      · simp only [step, hpoint, hreceive, Option.some.injEq] at h
        subst h
        exact ⟨⟨hclosed, hempty, by simp⟩, by grind [stepsLeft, RestaurantAction.own]⟩
      · simp only [step, hpoint, hreceive, Option.some.injEq] at h
        subst h
        have hqueue := RestaurantProc.enterQueue_pHandleRestaurantMQ_le msg x s.proc
        exact ⟨⟨hclosed, empty_pHandleRestaurantMQ hempty msg x, by simp⟩,
          by grind [stepsLeft, RestaurantAction.own]⟩
    | _ => simp [step, hpoint] at h
  | handleThrows paused x =>
    obtain ⟨token, msg, m, hpoint, hreceive, -, u, hu, rfl⟩ := handle_of_handleThrows h
    simp only [step, hpoint, hreceive, Option.some.injEq] at hu
    subst hu
    have hqueue := RestaurantProc.enterQueue_pHandleRestaurantMQ_le msg x s.proc
    exact ⟨⟨hclosed, empty_pHandleRestaurantMQ hempty msg x, by simp⟩,
      by grind [stepsLeft, RestaurantAction.own]⟩
  | registerThrows paused caught =>
    obtain ⟨newHandler, message, rest, hpoint, hqueue, rfl⟩ := registerThrows_step h
    cases caught with
    | error e =>
      exact ⟨⟨hclosed, hempty, by simp [logging]⟩,
        by simp [logging, stepsLeft, RestaurantAction.own, hpoint]⟩
    | ok u =>
      refine ⟨⟨hclosed, hempty, hfilling⟩, ?_⟩
      simp [logging, stepsLeft, RestaurantAction.own, hpoint, hqueue]
      omega
  | register x =>
    cases hpoint : s.point with
    | filling newHandler =>
      simp only [step, hpoint, Option.some.injEq] at h
      obtain ⟨hsteps, hopen, hhandler, hnew⟩ :=
        fill_vacated hclosed cfg (hfilling newHandler (.inl hpoint)) x
      rw [h] at hsteps hopen hhandler hnew
      refine ⟨⟨hopen, by rwa [hhandler], hnew⟩, ?_⟩
      grind [stepsLeft, RestaurantAction.own]
    | _ => simp [step, hpoint] at h
  | announce logged =>
    simp only [step, Option.ite_none_right_eq_some, Option.some.injEq] at h
    obtain ⟨hpoint, rfl⟩ := h
    cases logged with
    | error e =>
      exact ⟨⟨hclosed, hempty, by simp [logging]⟩,
        by simp [logging, stepsLeft, RestaurantAction.own, hpoint]⟩
    | ok u =>
      exact ⟨⟨hclosed, hempty, by simp [logging]⟩,
        by simp [logging, stepsLeft, RestaurantAction.own, hpoint]⟩
  | decide =>
    have hnew : (AttractionHandler.construct (handlerData cfg)).isEmpty = true := rfl
    refine ⟨⟨?_, ?_, ?_⟩, ?_⟩ <;> grind [step, stepsLeft, RestaurantAction.own]
  | start now =>
    simp only [step, Option.ite_none_right_eq_some, Option.some.injEq] at h
    obtain ⟨hpoint, rfl⟩ := h
    refine ⟨⟨hclosed, fun h hh => ?_, by simp⟩, by simp [stepsLeft, RestaurantAction.own, hpoint]⟩
    obtain ⟨handler, hhandler, rfl⟩ := Option.map_eq_some_iff.mp hh
    have hnone := hempty handler hhandler
    rwa [AttractionHandler.isEmpty, ← AttractionHandler.startAttraction_clientList now] at hnone
  | wake token | finishCheck now | receiveThrows | install =>
    refine ⟨⟨?_, ?_, ?_⟩, ?_⟩ <;> grind [step, stepsLeft, RestaurantAction.own, Mailbox.take]

omit [DecidableEq C] in
theorem stepsLeft_le (s : RestaurantSystem C) : s.stepsLeft ≤ s.proc.enterQueue.length + 8 := by
  unfold stepsLeft
  grind

omit [DecidableEq C] in
theorem ended_of_stepsLeft {s : RestaurantSystem C} (h : s.stepsLeft = 0) : s.Ended := by
  unfold stepsLeft at h
  grind [Ended]

/-- The next step of `Run`; out of `Wait` it is one that a token, a signal or the timeout brings. -/
theorem next_own (cfg : AttractionConfig) {s : RestaurantSystem C} (hs : ¬ s.Ended) :
    ∃ a : RestaurantAction C, 0 < a.own ∧ ((machine C cfg).step s a).isSome = true := by
  cases hpoint : s.point with
  | loopHead => exact ⟨.check 0, Nat.one_pos, by simp [machine, step, hpoint]⟩
  | waiting timeout => exact ⟨.wake false, Nat.one_pos, by simp [machine, step, hpoint]⟩
  | woken token => exact ⟨.finishCheck 0, Nat.one_pos, by simp [machine, step, hpoint]⟩
  | checked token =>
    refine ⟨.handle (.faultless 0 0), Nat.one_pos, ?_⟩
    rcases hreceive : s.mailbox.receive with ⟨_ | msg, m⟩ <;>
      simp [machine, step, hpoint, hreceive]
  | deciding => exact ⟨.decide, Nat.one_pos, by simp [machine, step, hpoint]⟩
  | filling newHandler =>
    exact ⟨.register (.faultless 0 0), Nat.one_pos, by simp [machine, step, hpoint]⟩
  | installing newHandler =>
    refine ⟨.install, Nat.one_pos, ?_⟩
    cases hempty : newHandler.isEmpty <;> simp [machine, step, hpoint, hempty]
  | starting => exact ⟨.start 0, Nat.one_pos, by simp [machine, step, hpoint]⟩
  | announcing => exact ⟨.announce (.ok ()), Nat.one_pos, by simp [machine, step, hpoint]⟩
  | stopped => exact absurd hpoint hs

/-- A vacated restaurant ends. -/
theorem endsWithin (cfg : AttractionConfig) {s : RestaurantSystem C} (hs : s.Vacated) :
    (machine C cfg).EndsWithin RestaurantAction.own Ended (s.proc.enterQueue.length + 8) s := by
  apply Machine.endsWithin_of_potential (I := Vacated) ?_ ?_ ?_ hs s.stepsLeft_le
  · exact fun _ _ _ hs h => vacated_step hs h
  · exact fun _ => ended_of_stepsLeft
  · exact fun _ _ hs => next_own cfg hs

end RestaurantSystem
end Restaurant

namespace Cashier

/-- A step of `Run`, as opposed to one of a client, of the manager or of a signal. -/
def CashierAction.own {C : Type*} : CashierAction C → ℕ
  | .mailbox _ | .closePark | .sigTerm _ => 0
  | _ => 1

/-- A message adds at most one request to the two queues. -/
theorem CashierProc.queues_pHandleRegisterMQ_le (registerMsg : RegisterMQMessage)
    (x : ReplyOutcome) (c : CashierProc) :
    (pHandleRegisterMQ registerMsg x c).enterVipQueue.length +
        (pHandleRegisterMQ registerMsg x c).enterQueue.length ≤
      c.enterVipQueue.length + c.enterQueue.length + 1 ∧
    (pHandleRegisterMQ registerMsg x c).terminated = c.terminated := by
  by_cases hexit : registerMsg.mType = .exitPark
  · rw [pHandleRegisterMQ_exit registerMsg x c hexit]
    unfold pRemoveClient
    cases c.clients.lookup registerMsg.senderPID <;> exact ⟨Nat.le_succ _, rfl⟩
  · unfold pHandleRegisterMQ
    cases hm : registerMsg.mType with
    | exitPark => exact absurd hm hexit
    | other raw => exact ⟨Nat.le_succ _, rfl⟩
    | enterPark =>
      unfold pHandleEnterPark
      cases registerMsg.content with
      | exitPark content => exact ⟨Nat.le_succ _, rfl⟩
      | enterPark content =>
        by_cases hvip : content.isVip = true
        · simp [hvip]
          omega
        · simp [hvip]
          omega

namespace CashierSystem
variable {C : Type*} [DecidableEq C]

/-- The cashier has been dismissed: the park is closed, and `SIGTERM` has come. -/
structure Dismissed (s : CashierSystem C) : Prop where
  closed : s.isOpen = false
  terminated : s.proc.terminated = true

/-- `Run` is left. -/
def Ended (s : CashierSystem C) : Prop := s.point = .stopped

/-- A bound on the own steps that are left to a dismissed cashier. -/
def stepsLeft (s : CashierSystem C) : ℕ :=
  let n := s.proc.enterQueue.length
  let v := s.proc.enterVipQueue.length
  match s.point with
  | .stopped => 0
  | .loopHead => 1
  | .waiting => v + n + 7
  | .woken _ => v + n + 6
  | .vipLoop => v + n + 4
  | .ordinaryLoop => n + 3
  | .logging => 2

theorem dismissed_step {parkSize : ℕ} {s t : CashierSystem C} {a : CashierAction C}
    (hs : s.Dismissed) (h : step parkSize s a = some t) :
    t.Dismissed ∧ a.own + t.stepsLeft ≤ s.stepsLeft := by
  obtain ⟨hclosed, hterminated⟩ := hs
  cases a with
  | mailbox a =>
    obtain ⟨m, -, rfl⟩ := Option.map_eq_some_iff.mp h
    exact ⟨⟨hclosed, hterminated⟩, (Nat.zero_add _).le⟩
  | closePark =>
    obtain rfl := Option.some.inj h
    exact ⟨⟨rfl, hterminated⟩, (Nat.zero_add _).le⟩
  | sigTerm logged =>
    simp only [step, hclosed, Bool.false_eq_true, if_false] at h
    cases logged with
    | error e =>
      obtain rfl := Option.some.inj h
      exact ⟨⟨rfl, hterminated⟩, Nat.zero_le _⟩
    | ok u =>
      obtain rfl := Option.some.inj h
      exact ⟨⟨rfl, rfl⟩, (Nat.zero_add _).le⟩
  | check =>
    have hcontinues : s.continues = false := by simp [continues, hterminated]
    simp only [step, hcontinues, Option.ite_none_right_eq_some, Option.some.injEq] at h
    obtain ⟨hpoint, rfl⟩ := h
    exact ⟨⟨hclosed, hterminated⟩, by simp [stepsLeft, CashierAction.own, hpoint]⟩
  | handle x =>
    cases hpoint : s.point with
    | woken token =>
      rcases hreceive : s.mailbox.receive with ⟨_ | msg, m⟩
      · simp only [step, hpoint, hreceive, Option.some.injEq] at h
        subst h
        exact ⟨⟨hclosed, hterminated⟩, by grind [stepsLeft, CashierAction.own]⟩
      · simp only [step, hpoint, hreceive, Option.some.injEq] at h
        subst h
        obtain ⟨hqueues, hkeep⟩ := CashierProc.queues_pHandleRegisterMQ_le msg x s.proc
        exact ⟨⟨hclosed, hkeep.trans hterminated⟩, by grind [stepsLeft, CashierAction.own]⟩
    | _ => simp [step, hpoint] at h
  | log logged =>
    simp only [step, Option.ite_none_right_eq_some] at h
    obtain ⟨hpoint, h⟩ := h
    cases logged with
    | error e =>
      obtain rfl := Option.some.inj h
      exact ⟨⟨hclosed, hterminated⟩, by simp [stepsLeft, CashierAction.own, hpoint]⟩
    | ok u =>
      obtain rfl := Option.some.inj h
      exact ⟨⟨hclosed, hterminated⟩, by simp [stepsLeft, CashierAction.own, hpoint]⟩
  | wake token | receiveThrows | serveVip x | serveOrdinary x =>
    refine ⟨⟨?_, ?_⟩, ?_⟩ <;>
      grind [step, serve_closed, stepsLeft, CashierAction.own, Mailbox.take]

omit [DecidableEq C] in
theorem stepsLeft_le (s : CashierSystem C) :
    s.stepsLeft ≤ s.proc.enterVipQueue.length + s.proc.enterQueue.length + 7 := by
  unfold stepsLeft
  grind

omit [DecidableEq C] in
theorem ended_of_stepsLeft {s : CashierSystem C} (h : s.stepsLeft = 0) : s.Ended := by
  unfold stepsLeft at h
  grind [Ended]

/-- The next step of `Run`; out of `Wait` it is one that a token or a signal brings. -/
theorem next_own (parkSize : ℕ) {s : CashierSystem C} (hs : ¬ s.Ended) :
    ∃ a : CashierAction C, 0 < a.own ∧ ((machine C parkSize).step s a).isSome = true := by
  cases hpoint : s.point with
  | loopHead => exact ⟨.check, Nat.one_pos, by simp [machine, step, hpoint]⟩
  | waiting => exact ⟨.wake false, Nat.one_pos, by simp [machine, step, hpoint]⟩
  | woken token =>
    refine ⟨.handle (.faultless 0 0), Nat.one_pos, ?_⟩
    rcases hreceive : s.mailbox.receive with ⟨_ | msg, m⟩ <;>
      simp [machine, step, hpoint, hreceive]
  | vipLoop =>
    refine ⟨.serveVip (.faultless 0 0), Nat.one_pos, ?_⟩
    cases hvip : s.proc.enterVipQueue <;> simp [machine, step, hpoint, hvip]
  | ordinaryLoop =>
    refine ⟨.serveOrdinary (.faultless 0 0), Nat.one_pos, ?_⟩
    cases hvip : s.proc.enterVipQueue <;> cases hqueue : s.proc.enterQueue <;>
      simp [machine, step, hpoint, hvip, hqueue]
  | logging => exact ⟨.log (.ok ()), Nat.one_pos, by simp [machine, step, hpoint]⟩
  | stopped => exact absurd hpoint hs

/-- A dismissed cashier ends. -/
theorem endsWithin (parkSize : ℕ) {s : CashierSystem C} (hs : s.Dismissed) :
    (machine C parkSize).EndsWithin CashierAction.own Ended
      (s.proc.enterVipQueue.length + s.proc.enterQueue.length + 7) s := by
  apply Machine.endsWithin_of_potential (I := Dismissed) ?_ ?_ ?_ hs s.stepsLeft_le
  · exact fun _ _ _ hs h => dismissed_step hs h
  · exact fun _ => ended_of_stepsLeft
  · exact fun _ _ hs => next_own parkSize hs

end CashierSystem
end Cashier

/-- From any state on in which the park is closed, an attraction leaves `Run` or crashes within ten
steps of its own and one for each waiting request, whatever clients, manager and signals do; a
restaurant leaves it within eight once it is empty, and the cashier within seven once it has
handled `SIGTERM`. Until then each of them has a next step. -/
theorem lastSteps (C : Type*) [DecidableEq C] (parkSize : ℕ) (cfg table : AttractionConfig)
    (s : Attraction.AttractionSystem C) (hs : s.isOpen = false)
    (r : Restaurant.RestaurantSystem C) (hr : r.Vacated)
    (c : Cashier.CashierSystem C) (hc : c.Dismissed) :
    (Attraction.AttractionSystem.machine C cfg).EndsWithin Attraction.AttractionAction.own
        (·.Ended) (s.proc.enterQueue.length + 10) s ∧
      (Restaurant.RestaurantSystem.machine C table).EndsWithin Restaurant.RestaurantAction.own
        (·.Ended) (r.proc.enterQueue.length + 8) r ∧
      (Cashier.CashierSystem.machine C parkSize).EndsWithin Cashier.CashierAction.own
        (·.Ended) (c.proc.enterVipQueue.length + c.proc.enterQueue.length + 7) c :=
  ⟨Attraction.AttractionSystem.endsWithin cfg hs, Restaurant.RestaurantSystem.endsWithin table hr,
    Cashier.CashierSystem.endsWithin parkSize hc⟩

/-- An attraction, an empty restaurant and a cashier after `SIGTERM`, all of them with requests and
woken by the manager. -/
theorem wokenWorkers_lastSteps :
    let s : Attraction.AttractionSystem Unit :=
      ⟨{ Attraction.AttractionProc.init 0 ⟨30, 20, 1, true, 120, -1, -1, -1⟩ with
        enterQueue := [⟨7, .enterAttraction, .enterAttraction ⟨false, ⟨30, 180⟩, ⟨0, 0⟩⟩⟩] },
        false, .waiting (-1), .empty 1⟩
    let r : Restaurant.RestaurantSystem Unit :=
      ⟨{ Restaurant.RestaurantProc.init with enterQueue := [tableRequest] }, false, .waiting (-1),
        .empty 1⟩
    let c : Cashier.CashierSystem Unit :=
      ⟨{ Cashier.CashierProc.init with
          terminated := true
          enterVipQueue := [⟨8, .enterPark, .enterPark ⟨false, true, .h2⟩⟩]
          enterQueue := [⟨9, .enterPark, .enterPark ⟨true, false, .h4⟩⟩] },
        false, .waiting, .empty 1⟩
    (Attraction.AttractionSystem.machine Unit ⟨30, 20, 1, true, 120, -1, -1, -1⟩).EndsWithin
        Attraction.AttractionAction.own (·.Ended) 11 s ∧
      (Restaurant.RestaurantSystem.machine Unit ⟨30, 20, 1, true, 120, -1, -1, -1⟩).EndsWithin
        Restaurant.RestaurantAction.own (·.Ended) 9 r ∧
      (Cashier.CashierSystem.machine Unit 4).EndsWithin Cashier.CashierAction.own (·.Ended) 9 c :=
      by
  intro s r c
  have hvacated : r.Vacated := ⟨rfl, fun _ h => (by cases h), fun _ h => (by simp [r] at h)⟩
  exact lastSteps Unit 4 _ _ s rfl r hvacated c ⟨rfl, rfl⟩

end AmusementPark
