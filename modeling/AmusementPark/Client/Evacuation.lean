import AmusementPark.Client.Queues

/-! # Visits after an evacuation order

`Run` tests `m_evac` at the head of its loop, before a visit begins. The `Wait`
on a leave semaphore comes several calls later, and a `SIGUSR1` in between does
not keep the client from it. Neither does one that precedes a visit to the
restaurant from outside while the park is open.
-/
namespace AmusementPark.Client
open Library Library.Outcome

/-- In `pVisitRestaurant`, past the test of `isOpen` and not yet in the `Wait`. -/
def RestaurantPoint.beforeWait : RestaurantPoint → Bool
  | .getRestaurantMQ | .createReply | .sendEnter | .receivePermit | .sendAck | .removeAll
  | .logEnter | .startWait => true
  | _ => false

/-- In `pVisitAttraction`, not yet in the `Wait` and not refused. -/
def AttractionPoint.beforeWait : AttractionPoint → Bool
  | .createReply | .getAttractionMQ | .sendEnter | .receivePermit | .sendAck _ | .logEnter _
  | .startWait _ => true
  | .removeAll semID => semID.isSome
  | _ => false

/-- Past the test of the flag and not yet in the `Wait`, or before the flag is reset. -/
def ClientPoint.missesOrder : ClientPoint → Bool
  | .initFlags => true
  | .restaurant _ p => p.beforeWait
  | .attraction _ p => p.beforeWait
  | _ => false

/-- The next step is the `Wait`. -/
def ClientPoint.startsWait : ClientPoint → Bool
  | .restaurant _ .startWait | .attraction _ (.startWait _) => true
  | _ => false

namespace ClientSystem

/-- Whether `SetEvacFlag(true)` has run. -/
def recordOrder (ordered : Bool) (_ : ClientSystem) : ClientAction → ClientSystem → Bool
  | .sigUsr1 _, _ => true
  | .run _, _ | .closePark, _ => ordered

def orderedMachine : Machine (ClientSystem × Bool) ClientAction := machine.observe recordOrder

/-- An evacuated client does not stand in front of a `Wait`. -/
def NoWaitAfterOrder (p : ClientSystem × Bool) : Prop := p.2 = true → p.1.point.startsWait = false

instance : DecidablePred NoWaitAfterOrder := fun _ => inferInstanceAs (Decidable (_ → _))

/-- A `SIGUSR1` whose message is logged arrives neither before `pInitImpl` has reset the flag nor
on the way into a `Wait`, and with the flag set the client neither enters an attraction nor begins
a visit to the restaurant of an open park. -/
def OrderedBetweenVisits (p : ClientSystem × Bool) : ClientAction → Prop
  | .sigUsr1 (.ok ()) => p.1.point.missesOrder = false
  | .run x => match p.1.point with
    | .choose => p.1.client.evac = true → x.attractionID = restaurantIndex
    | .restaurant _ .testOpen => p.1.client.evac = true → p.1.client.isOpen = false
    | _ => True
  | _ => True

instance decidableOrderedBetweenVisits (p : ClientSystem × Bool) :
    ∀ a, Decidable (OrderedBetweenVisits p a)
  | .sigUsr1 (.ok ()) => inferInstanceAs (Decidable (_ = _))
  | .run _ => by
    unfold OrderedBetweenVisits
    dsimp only
    split <;> infer_instance
  | .sigUsr1 (.error _) | .closePark => isTrue trivial

end ClientSystem

/-! ## Only the begin of a visit leads into a `Wait` -/

/-- The next point of a visit, if there is one, is not on the way into a `Wait`. -/
def pastWait {π ρ : Type*} (beforeWait : π → Bool) : Post Queues π ρ :=
  ⟨fun _ p => beforeWait p = false, fun _ _ => True, fun _ => True, fun _ => True⟩

variable {s : ClientState} {x : CallOutcome}

theorem RestaurantPoint.pastWait_step {p : RestaurantPoint} (hp : p.beforeWait = false)
    (hopen : p = .testOpen → s.isOpen = false) :
    (p.step s x).Satisfies (pastWait beforeWait) := by
  cases p with
  | testOpen => simp [step, pastWait, hopen rfl]
  | getRestaurantMQ | createReply | sendEnter | receivePermit | sendAck | removeAll | logEnter
  | startWait => cases hp
  | waiting => rfl
  | woken | leaveLogFailed | leaveLogUnsent | leaveLogNoBill | leaveLogPaid =>
    simp [step, satisfies_call, pastWait, beforeWait]
  | leaveCreate =>
    simp only [step, Queues.pCreateReplyMQ, satisfies_call_map, satisfies_next, pastWait]
    refine ⟨fun _ _ => trivial, fun r _ => ?_⟩
    cases r <;> rfl
  | leaveGetMQ => simp [step, Queues.pGetRestaurantMQ, satisfies_call_map, pastWait, beforeWait]
  | leaveSend =>
    simp only [step, satisfies_through, satisfies_call, satisfies_next, pastWait]
    refine ⟨fun _ => trivial, fun _ => ⟨fun _ _ => trivial, fun r _ => ?_⟩⟩
    cases r <;> rfl
  | leaveTest => simp [step, pastWait, beforeWait]
  | leaveReceive =>
    simp only [step, satisfies_through, satisfies_call]
    refine ⟨fun _ => trivial, fun _ => ⟨fun _ _ => trivial, fun msg _ => ?_⟩⟩
    cases msg with
    | none => rfl
    | some msg => simp [satisfies_call, pastWait, beforeWait]
  | leaveSendAck => simp [step, satisfies_through, satisfies_call, pastWait, beforeWait]

theorem AttractionPoint.pastWait_step {p : AttractionPoint} (hp : p.beforeWait = false) :
    (p.step s x).Satisfies (pastWait beforeWait) := by
  cases p with
  | createReply | getAttractionMQ | sendEnter | receivePermit | sendAck | logEnter | startWait =>
    cases hp
  | removeAll semID => cases semID with
    | none => trivial
    | some semID => cases hp
  | waiting => rfl
  | woken | leaveLogUnsent => simp [step, satisfies_call, pastWait, beforeWait]
  | leaveGetMQ => simp [step, Queues.pGetAttractionMQ, satisfies_call_map, pastWait, beforeWait]
  | leaveSend => simp [step, satisfies_through, satisfies_call, pastWait, beforeWait]

theorem EnterPoint.step_evac (p : EnterPoint) : (p.step s x).1.evac = s.evac := by
  cases p <;> simp only [step, call, through] <;> (repeat' split) <;> rfl

theorem LeavePoint.step_evac (p : LeavePoint) : (p.step s x).1.evac = s.evac := by
  cases p <;> simp only [step, call, through] <;> (repeat' split) <;> rfl

theorem ClientPoint.missesOrder_raise (point : ClientPoint) :
    point.raise.missesOrder = false := by
  cases point with
  | restaurant visit p => cases visit <;> cases p <;> rfl
  | leave call p => cases call <;> cases p <;> rfl
  | _ => rfl

theorem ClientPoint.missesOrder_interrupted {point : ClientPoint}
    (h : point.missesOrder = false) : point.interrupted.missesOrder = false := by
  cases point with
  | restaurant visit p => cases p <;> first | rfl | exact h
  | attraction attractionID p => cases p <;> first | rfl | exact h
  | _ => exact h

theorem ClientPoint.missesOrder_of_startsWait {point : ClientPoint}
    (h : point.startsWait = true) : point.missesOrder = true := by
  cases point with
  | restaurant visit p => cases p <;> first | rfl | cases h
  | attraction attractionID p => cases p <;> first | rfl | cases h
  | _ => cases h

namespace ClientSystem

/-- After an order the flag stays set, and the client is on the way into no `Wait`. -/
structure KeepsOut (s : ClientSystem) : Prop where
  evac : s.client.evac = true
  noted : s.point.missesOrder = false

variable {s t : ClientSystem}

theorem KeepsOut.stepRun (hs : s.KeepsOut) {x : CallOutcome} {ordered : Bool}
    (hx : OrderedBetweenVisits (s, ordered) (.run x)) (h : s.stepRun x = some t) :
    t.KeepsOut := by
  obtain ⟨client, point⟩ := s
  have hevac : client.evac = true := hs.evac
  cases point with
  | initFlags => cases hs.noted
  | restaurant visit p =>
    simp only [ClientSystem.stepRun, Option.some.injEq] at h
    subst h
    have hpast := RestaurantPoint.pastWait_step (s := client) (x := x) hs.noted
      (by rintro rfl; exact hx hevac)
    apply follow_satisfies hpast
    · exact fun _ hnext => ⟨hevac, hnext⟩
    · intro r _
      cases visit <;> exact ⟨hevac, rfl⟩
    · exact fun _ => ⟨hevac, ClientPoint.missesOrder_raise _⟩
    · exact fun _ => ⟨hevac, rfl⟩
  | attraction attractionID p =>
    simp only [ClientSystem.stepRun, Option.some.injEq] at h
    subst h
    have hpast := AttractionPoint.pastWait_step (s := client) (x := x) hs.noted
    apply follow_satisfies hpast
    · exact fun _ hnext => ⟨hevac, hnext⟩
    · exact fun _ _ => ⟨hevac, rfl⟩
    · exact fun _ => ⟨hevac, rfl⟩
    · exact fun _ => ⟨hevac, rfl⟩
  | enter p =>
    simp only [ClientSystem.stepRun, Option.some.injEq] at h
    subst h
    have hafter := (EnterPoint.step_evac (s := client) (x := x) p).trans hevac
    apply follow_rule
    · exact fun _ _ => ⟨hafter, rfl⟩
    · exact fun _ _ => ⟨hafter, rfl⟩
    · exact fun _ _ => ⟨hafter, rfl⟩
    · exact fun _ => ⟨hafter, rfl⟩
  | leave call p =>
    simp only [ClientSystem.stepRun, Option.some.injEq] at h
    subst h
    have hafter := (LeavePoint.step_evac (s := client) (x := x) p).trans hevac
    apply follow_rule
    · exact fun _ _ => ⟨hafter, rfl⟩
    · intro _ _
      cases call <;> exact ⟨hafter, rfl⟩
    · exact fun _ _ => ⟨hafter, ClientPoint.missesOrder_raise _⟩
    · exact fun _ => ⟨hafter, rfl⟩
  | choose =>
    -- the flag was set after the test at the loop's head
    simp only [ClientSystem.stepRun, Option.ite_none_right_eq_some, Option.some.injEq] at h
    obtain ⟨-, rfl⟩ := h
    have hrestaurant : x.attractionID = restaurantIndex := hx hevac
    rw [if_pos hrestaurant]
    exact ⟨hevac, rfl⟩
  | visited attractionID =>
    simp only [ClientSystem.stepRun, Option.some.injEq] at h
    subst h
    refine ⟨?_, rfl⟩
    dsimp only
    split <;> exact hevac
  | logStart | logEntered =>
    simp only [ClientSystem.stepRun] at h
    split at h <;> obtain rfl := Option.some.inj h <;> exact ⟨hevac, rfl⟩
  | createReply =>
    simp only [ClientSystem.stepRun] at h
    split at h
    · obtain rfl := Option.some.inj h
      refine ⟨hevac, ?_⟩
      dsimp only
      split <;> rfl
    · obtain rfl := Option.some.inj h
      exact ⟨hevac, rfl⟩
  | testOpen | drawBefore | enterPark | removeEntered | loopHead | drawAfter =>
    simp only [ClientSystem.stepRun, Option.some.injEq] at h
    subst h
    refine ⟨hevac, ?_⟩
    dsimp only
    split <;> rfl
  | removeBefore | removeVisited | removeLeft | removeAfter | removeClosed | logClosed =>
    simp only [ClientSystem.stepRun, Option.some.injEq] at h
    subst h
    exact ⟨hevac, rfl⟩
  | finished | crashed => simp [ClientSystem.stepRun] at h

/-- A step of a run whose orders come between visits. -/
theorem keepsOut_step {p q : ClientSystem × Bool} {a : ClientAction}
    (hp : p.2 = true → p.1.KeepsOut) (ha : OrderedBetweenVisits p a)
    (h : orderedMachine.step p a = some q) : q.2 = true → q.1.KeepsOut := by
  obtain ⟨hstep, hrecord⟩ := Machine.observe_step.mp h
  intro hordered
  rw [← hrecord] at hordered
  cases a with
  | run x => exact (hp hordered).stepRun ha hstep
  | closePark =>
    have hs := hp hordered
    rw [← Option.some.inj hstep]
    exact ⟨hs.evac, hs.noted⟩
  | sigUsr1 logged =>
    simp only [machine, ClientSystem.step, Option.ite_none_left_eq_some,
      Option.some.injEq] at hstep
    rw [← hstep.2]
    cases logged with
    | ok u => exact ⟨rfl, ClientPoint.missesOrder_interrupted ha⟩
    | error e => exact ⟨rfl, ClientPoint.missesOrder_raise _⟩

/-- In every run of a client whose orders come between its visits, an evacuated client does not
begin to wait on a leave semaphore. -/
theorem noWaitAfterOrder_of_betweenVisits (pid : Pid) (data : ClientData) (isOpen : Bool)
    (as : List ClientAction)
    (has : orderedMachine.Meets OrderedBetweenVisits (started pid data isOpen, false) as) :
    orderedMachine.Always NoWaitAfterOrder (started pid data isOpen, false) as := by
  apply Machine.always_of_meets (I := fun p => p.2 = true → p.1.KeepsOut) ?_ ?_ ?_ has
  · intro p hp hordered
    by_contra hwait
    have hmisses := ClientPoint.missesOrder_of_startsWait (Bool.not_eq_false _ ▸ hwait)
    rw [(hp hordered).noted] at hmisses
    cases hmisses
  · intro p a q hp ha h
    exact keepsOut_step hp ha h
  · intro hordered
    cases hordered

/-- Nothing else keeps a client that is past the test from its `Wait`: if all its calls succeed, it
waits, whether or not the flag has been set. -/
theorem waits_of_missesOrder (hs : s.QueuesReady) (hmisses : s.point.missesOrder = true)
    (hinit : s.point ≠ .initFlags) :
    ∃ n t, machine.exec s (List.replicate n (.run mealPermitCall)) = some t ∧
      t.point.startsWait = true := by
  obtain ⟨⟨proc, pid, ⟨clientQueue, registerMQ, attractionMQ, restaurantMQ⟩, evac, isOpen,
    available, sent⟩, point⟩ := s
  have hready := hs.ready
  cases point with
  | initFlags => exact absurd rfl hinit
  | restaurant visit p => cases p with
    | getRestaurantMQ => exact ⟨7, _, rfl, rfl⟩
    | createReply =>
      obtain rfl : restaurantMQ = true := hready
      exact ⟨6, _, rfl, rfl⟩
    | sendEnter =>
      obtain ⟨rfl, rfl⟩ : restaurantMQ = true ∧ clientQueue = true := hready
      exact ⟨5, _, rfl, rfl⟩
    | receivePermit =>
      obtain rfl : clientQueue = true := hready
      exact ⟨4, _, rfl, rfl⟩
    | sendAck =>
      obtain rfl : clientQueue = true := hready
      exact ⟨3, _, rfl, rfl⟩
    | removeAll => exact ⟨2, _, rfl, rfl⟩
    | logEnter => exact ⟨1, _, rfl, rfl⟩
    | startWait => exact ⟨0, _, rfl, rfl⟩
    | _ => cases hmisses
  | attraction attractionID p => cases p with
    | createReply => exact ⟨7, _, rfl, rfl⟩
    | getAttractionMQ =>
      obtain rfl : clientQueue = true := hready
      exact ⟨6, _, rfl, rfl⟩
    | sendEnter =>
      obtain ⟨rfl, rfl⟩ : attractionMQ = true ∧ clientQueue = true := hready
      exact ⟨5, _, rfl, rfl⟩
    | receivePermit =>
      obtain rfl : clientQueue = true := hready
      exact ⟨4, _, rfl, rfl⟩
    | sendAck semID =>
      obtain rfl : clientQueue = true := hready
      exact ⟨3, _, rfl, rfl⟩
    | removeAll semID => cases semID with
      | none => cases hmisses
      | some semID => exact ⟨2, _, rfl, rfl⟩
    | logEnter semID => exact ⟨1, _, rfl, rfl⟩
    | startWait semID => exact ⟨0, _, rfl, rfl⟩
    | _ => cases hmisses
  | _ => cases hmisses

/-- In the park, on the way into attraction A6, with the permit in hand. -/
def intoAttraction : List ClientAction :=
  intoPark ++ List.replicate 2 (.run { mealPermitCall with choice := true, attractionID := 5 }) ++
    List.replicate 6 (.run mealPermitCall)

/-- From the draw before the park into the `Wait` in the restaurant. -/
def intoRestaurant : List ClientAction :=
  .run { mealPermitCall with choice := true } :: List.replicate 8 (.run mealPermitCall)

/-- The park closes while the client waits in an attraction. The order ends the `Wait`; the client
leaves the park and, tempted by the restaurant, finds it closed. -/
def evacuated : List ClientAction :=
  intoAttraction ++ List.replicate 2 (.run mealPermitCall) ++ [.closePark, .sigUsr1 (.ok ())] ++
    List.replicate 14 (.run { mealPermitCall with choice := true })

theorem ordinaryClient_leaves :
    orderedMachine.Always NoWaitAfterOrder (started 7 ordinaryClient true, false) evacuated :=
  noWaitAfterOrder_of_betweenVisits 7 ordinaryClient true evacuated (by decide +kernel)

/-- A `SIGUSR1` between the permit and the `Wait`, one before a visit to the restaurant of the
open park, and one before the flag is reset. -/
theorem ordinaryClient_waits :
    ¬ orderedMachine.Always NoWaitAfterOrder (started 7 ordinaryClient true, false)
      (intoAttraction ++ [.sigUsr1 (.ok ()), .run mealPermitCall]) ∧
    ¬ orderedMachine.Always NoWaitAfterOrder (started 7 ordinaryClient true, false)
      (.run mealPermitCall :: .run mealPermitCall :: .run mealPermitCall :: .sigUsr1 (.ok ()) ::
        intoRestaurant) ∧
    ¬ orderedMachine.Always NoWaitAfterOrder (started 7 ordinaryClient true, false)
      (.sigUsr1 (.ok ()) :: .run mealPermitCall :: .run mealPermitCall :: .run mealPermitCall ::
        intoRestaurant) := by
  decide +kernel

end ClientSystem
end AmusementPark.Client
