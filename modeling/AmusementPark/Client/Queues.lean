import AmusementPark.Client.ClientRun

/-! # Calls through the client's queues

Every call goes through a queue that the same procedure has opened before, with
one exception: `pLeavePark` goes on after a failed creation of its reply queue,
and receives its bill through a null pointer.
-/
namespace AmusementPark.Client
open Library Library.Outcome

/-! ## The pointer of the next call -/

def RestaurantPoint.pointer (q : Queues) : RestaurantPoint → Option Bool
  | .sendEnter | .leaveSend => some q.restaurantMQ
  | .receivePermit | .sendAck | .leaveReceive | .leaveSendAck => some q.clientQueue
  | _ => none

def AttractionPoint.pointer (q : Queues) : AttractionPoint → Option Bool
  | .sendEnter | .leaveSend => some q.attractionMQ
  | .receivePermit | .sendAck _ => some q.clientQueue
  | _ => none

def EnterPoint.pointer (q : Queues) : EnterPoint → Option Bool
  | .sendEnter => some q.registerMQ
  | .receivePermit | .sendAck => some q.clientQueue
  | .getRegisterMQ => none

def LeavePoint.pointer (q : Queues) : LeavePoint → Option Bool
  | .sendExit => some q.registerMQ
  | .receiveBill | .sendAck => some q.clientQueue
  | _ => none

def ClientPoint.pointer (q : Queues) : ClientPoint → Option Bool
  | .restaurant _ p => p.pointer q
  | .attraction _ p => p.pointer q
  | .enter p => p.pointer q
  | .leave _ p => p.pointer q
  | _ => none

/-- `pLeavePark` after a successful send. -/
def ClientPoint.exitSent : ClientPoint → Bool
  | .leave _ (.sent true) => true
  | _ => false

namespace ClientSystem

/-- No call has gone through a null pointer, and none does next. -/
def NoMissingQueue (s : ClientSystem) : Prop :=
  s.point ≠ .crashed ∧ s.point.pointer s.client.queues ≠ some false

instance : DecidablePred NoMissingQueue := fun _ => inferInstanceAs (Decidable (_ ∧ _))

/-- When the exit message has been put on the cashier's queue, the client is a VIP that has not
eaten in the park, or it has a reply queue. -/
def RepliesExpected (s : ClientSystem) : ClientAction → Prop
  | .run _ => s.point.exitSent = true →
      s.client.data.isVip = true ∧ s.client.visitedRestaurant = false ∨
        s.client.queues.clientQueue = true
  | _ => True

instance decidableRepliesExpected (s : ClientSystem) : ∀ a, Decidable (s.RepliesExpected a)
  | .run _ => inferInstanceAs (Decidable (_ → _))
  | .closePark | .sigUsr1 _ => isTrue trivial

end ClientSystem

/-! ## The queues each point relies on -/

def RestaurantPoint.Ready (q : Queues) : RestaurantPoint → Prop
  | .createReply | .leaveSend => q.restaurantMQ = true
  | .sendEnter => q.restaurantMQ = true ∧ q.clientQueue = true
  | .receivePermit | .sendAck | .leaveReceive | .leaveSendAck => q.clientQueue = true
  | _ => True

def AttractionPoint.Ready (q : Queues) : AttractionPoint → Prop
  | .sendEnter => q.attractionMQ = true ∧ q.clientQueue = true
  | .getAttractionMQ | .receivePermit | .sendAck _ => q.clientQueue = true
  | .leaveSend => q.attractionMQ = true
  | _ => True

def EnterPoint.Ready (q : Queues) : EnterPoint → Prop
  | .sendEnter => q.registerMQ = true ∧ q.clientQueue = true
  | .getRegisterMQ | .receivePermit | .sendAck => q.clientQueue = true

def LeavePoint.Ready (q : Queues) : LeavePoint → Prop
  | .sendExit => q.registerMQ = true
  | .receiveBill | .sendAck => q.clientQueue = true
  | _ => True

variable {s : ClientState} {x : CallOutcome}

theorem RestaurantPoint.ready_step {p : RestaurantPoint} (h : p.Ready s.queues) :
    (p.step s x).Safe fun q p => p.Ready q := by
  cases p with
  | testOpen | removeAll | startWait | waiting => simp [step, Ready]
  | getRestaurantMQ => simp [step, Queues.pGetRestaurantMQ, Ready]
  | createReply =>
    -- the restaurant's queue stays open
    simp only [step, Queues.pCreateReplyMQ, safe_call_map, safe_ite, safe_next, Ready]
    exact fun r _ => ⟨fun hreply => ⟨h, hreply⟩, fun _ => trivial⟩
  | sendEnter =>
    simp only [step, safe_through, safe_call, safe_ite, safe_next, Ready]
    exact ⟨h.1, fun r _ => ⟨fun _ => h.2, fun _ => trivial⟩⟩
  | receivePermit =>
    simp only [step, safe_through, safe_call, safe_ite, safe_next, Ready]
    exact ⟨h, fun permit _ => ⟨fun _ => h, fun _ => trivial⟩⟩
  | sendAck => simpa [step, safe_call, Ready] using h
  | logEnter | woken | leaveLogFailed | leaveLogUnsent | leaveLogNoBill | leaveLogPaid =>
    simp [step, safe_call, Ready]
  | leaveCreate =>
    simp only [step, Queues.pCreateReplyMQ, safe_call_map, safe_next]
    intro r _
    cases r <;> trivial
  | leaveGetMQ => simp [step, Queues.pGetRestaurantMQ, Ready]
  | leaveSend =>
    simp only [step, safe_through, safe_call, safe_next]
    refine ⟨h, fun r _ => ?_⟩
    cases r <;> trivial
  | leaveTest => simp [step, ClientProc.waitsForRestaurantBill, Ready]
  | leaveReceive =>
    simp only [step, safe_through, safe_call]
    refine ⟨h, fun msg _ => ?_⟩
    cases msg with
    | none => trivial
    | some msg =>
      simp only [safe_call, safe_ite, safe_next]
      exact fun r _ => ⟨fun _ => h, fun _ => trivial⟩
  | leaveSendAck => simpa [step, safe_call, Ready] using h

theorem AttractionPoint.ready_step {p : AttractionPoint} (h : p.Ready s.queues) :
    (p.step s x).Safe fun q p => p.Ready q := by
  cases p with
  | createReply => simp [step, Queues.pCreateAttractionReplyMQ, Ready]
  | getAttractionMQ =>
    simp only [step, Queues.pGetAttractionMQ, safe_call_map, safe_next]
    intro r _
    cases r with
    | false => trivial
    | true => exact ⟨rfl, h⟩
  | sendEnter =>
    simp only [step, safe_through, safe_call, safe_next]
    refine ⟨h.1, fun r _ => ?_⟩
    cases r with
    | false => trivial
    | true => exact h.2
  | receivePermit =>
    simp only [step, safe_through, safe_call]
    refine ⟨h, fun permit _ => ?_⟩
    cases permit with
    | none => trivial
    | some semID => exact h
  | sendAck semID => simpa [step, safe_call, Ready] using h
  | removeAll semID => cases semID <;> simp [step, Ready]
  | logEnter semID => simp [step, safe_call, Ready]
  | startWait semID | waiting semID => simp [step, Ready]
  | woken result => simp [step, safe_call, Ready]
  | leaveGetMQ => simp [step, Queues.pGetAttractionMQ, Ready]
  | leaveSend => simpa [step, safe_call, Ready] using h
  | leaveLogUnsent => simp [step, safe_call]

theorem EnterPoint.ready_step {p : EnterPoint} (h : p.Ready s.queues) :
    (p.step s x).Safe fun s p => p.Ready s.queues := by
  cases p with
  | getRegisterMQ =>
    simp only [step, Queues.pGetRegisterMQ, safe_call_map, safe_ite, safe_next, Ready]
    exact fun r _ => ⟨fun hregister => ⟨hregister, h⟩, fun _ => trivial⟩
  | sendEnter =>
    simp only [step, safe_through, safe_call]
    refine ⟨h.1, fun r _ => ?_⟩
    cases r with
    | false => trivial
    | true => exact h.2
  | receivePermit =>
    simp only [step, safe_through, safe_call, safe_ite, safe_next, Ready]
    exact ⟨h, fun allowed _ => ⟨fun _ => h, fun _ => trivial⟩⟩
  | sendAck => simpa [step, safe_call, Ready] using h

/-- `pLeavePark` has what its calls need, if it has a reply queue where it waits for a bill. -/
theorem LeavePoint.ready_step {p : LeavePoint} (h : p.Ready s.queues)
    (hreply : p = .sent true → s.data.isVip = true ∧ s.visitedRestaurant = false ∨
      s.queues.clientQueue = true) :
    (p.step s x).Safe fun s p => p.Ready s.queues := by
  cases p with
  | testEntered => cases hvip : s.data.isVip <;> simp [step, Ready, hvip]
  | createReply =>
    simp only [step, Queues.pCreateReplyMQ, safe_call_map, safe_next]
    intro r _
    cases r <;> trivial
  | logFailed | logUnsent | logNoBill | logPaid => simp [step, safe_call, Ready]
  | clearEntered => simp [step, Ready]
  | getRegisterMQ => simp [step, Queues.pGetRegisterMQ, Ready]
  | sendExit => simpa [step, safe_call, Ready] using h
  | sent result =>
    simp only [step, safe_ite, safe_next]
    refine ⟨fun _ => trivial, fun hbill => ?_⟩
    cases result with
    | false => trivial
    | true =>
      obtain ⟨hvip, hvisited⟩ | hclient := hreply rfl
      · simp [hvip, hvisited] at hbill
      · exact hclient
  | receiveBill =>
    simp only [step, safe_through, safe_call]
    refine ⟨h, fun msg _ => ?_⟩
    cases msg with
    | none => trivial
    | some msg =>
      simp only [safe_call, safe_ite, safe_next]
      exact fun r _ => ⟨fun _ => h, fun _ => trivial⟩
  | sendAck => simpa [step, safe_call, Ready] using h

/-! ## The invariant of a run -/

/-- The points up to the call of `pEnterPark`. -/
def ClientPoint.beforePark : ClientPoint → Bool
  | .initFlags | .logStart | .testOpen | .drawBefore | .restaurant .beforePark _
  | .removeBefore | .createReply | .enterPark => true
  | _ => false

def ClientPoint.Ready (q : Queues) : ClientPoint → Prop
  | .restaurant _ p => p.Ready q
  | .attraction _ p => p.Ready q
  | .enterPark => q.clientQueue = true
  | .enter p => p.Ready q
  | .leave call p => call ≠ .entering ∧ p.Ready q
  | .crashed => False
  | _ => True

variable {q q' : Queues}

/-- Where an exception is caught, no queue is relied on. -/
theorem ClientPoint.ready_raise {point : ClientPoint} (h : point.Ready q) :
    point.raise.Ready q' := by
  cases point with
  | restaurant visit p => cases visit <;> cases p <;> trivial
  | leave call p =>
    cases p with
    | createReply => exact ⟨h.1, trivial⟩
    | _ => cases call <;> trivial
  | crashed => exact h
  | _ => trivial

theorem ClientPoint.beforePark_raise {point : ClientPoint}
    (h : point.raise.beforePark = true) : point.beforePark = true := by
  cases point with
  | restaurant visit p => cases visit <;> cases p <;> first | rfl | cases h
  | leave call p => cases call <;> cases p <;> cases h
  | _ => first | rfl | cases h

namespace ClientSystem

structure QueuesReady (s : ClientSystem) : Prop where
  ready : s.point.Ready s.client.queues
  before : s.point.beforePark = true → s.client.enteredPark = false

variable {s t : ClientSystem}

theorem QueuesReady.raise (hs : s.QueuesReady) (client : ClientState)
    (hclient : client.enteredPark = s.client.enteredPark) :
    QueuesReady ⟨client, s.point.raise⟩ where
  ready := ClientPoint.ready_raise hs.ready
  before h := hclient.trans (hs.before (ClientPoint.beforePark_raise h))

/-- A point without a next call, after the call of `pEnterPark`. -/
theorem queuesReady_past {client : ClientState} {point : ClientPoint}
    (hready : point.Ready client.queues) (hbefore : point.beforePark = false) :
    QueuesReady ⟨client, point⟩ where
  ready := hready
  before h := by rw [hbefore] at h; cases h

theorem QueuesReady.stepRun (hs : s.QueuesReady) {x : CallOutcome}
    (hreply : s.RepliesExpected (.run x)) (h : s.stepRun x = some t) : t.QueuesReady := by
  obtain ⟨client, point⟩ := s
  have hbefore : point.beforePark = true → client.enteredPark = false := hs.before
  cases point with
  | restaurant visit p =>
    simp only [stepRun, Option.some.injEq] at h
    subst h
    have hsafe := RestaurantPoint.ready_step (x := x) hs.ready
    apply follow_satisfies hsafe
    · intro _ hready
      exact ⟨hready, fun hp => hbefore (by cases visit <;> first | rfl | cases hp)⟩
    · intro _ _
      cases visit with
      | beforePark => exact ⟨trivial, fun _ => hbefore rfl⟩
      | inPark | afterPark => exact queuesReady_past trivial rfl
    · exact fun _ => hs.raise _ rfl
    · exact False.elim
  | attraction attractionID p =>
    simp only [stepRun, Option.some.injEq] at h
    subst h
    have hsafe := AttractionPoint.ready_step (x := x) hs.ready
    apply follow_satisfies hsafe
    · exact fun _ hready => queuesReady_past hready rfl
    · exact fun _ _ => queuesReady_past trivial rfl
    · exact fun _ => hs.raise _ rfl
    · exact False.elim
  | enter p =>
    simp only [stepRun, Option.some.injEq] at h
    subst h
    have hsafe := EnterPoint.ready_step (x := x) hs.ready
    apply follow_satisfies hsafe
    · exact fun _ hready => queuesReady_past hready rfl
    · exact fun _ _ => queuesReady_past trivial rfl
    · exact fun _ => queuesReady_past (ClientPoint.ready_raise hs.ready) rfl
    · exact False.elim
  | leave call p =>
    simp only [stepRun, Option.some.injEq] at h
    subst h
    have hsafe := LeavePoint.ready_step (x := x) hs.ready.2
      (by rintro rfl; exact hreply rfl)
    apply follow_satisfies hsafe
    · exact fun _ hready => queuesReady_past ⟨hs.ready.1, hready⟩ rfl
    · intro _ _
      cases call with
      | entering => exact absurd rfl hs.ready.1
      | run | close => exact queuesReady_past trivial rfl
    · intro _
      apply queuesReady_past (ClientPoint.ready_raise hs.ready)
      cases call <;> cases p <;> rfl
    · exact False.elim
  | initFlags =>
    simp only [stepRun, Option.some.injEq] at h
    subst h
    exact ⟨trivial, fun _ => rfl⟩
  | logStart =>
    simp only [stepRun] at h
    split at h
    · obtain rfl := Option.some.inj h
      exact ⟨trivial, fun _ => hbefore rfl⟩
    · obtain rfl := Option.some.inj h
      exact hs.raise _ rfl
  | testOpen =>
    simp only [stepRun, Option.some.injEq] at h
    subst h
    refine ⟨?_, fun _ => hbefore rfl⟩
    dsimp only
    split
    · trivial
    · exact ⟨by simp, trivial⟩
  | drawBefore =>
    simp only [stepRun, Option.some.injEq] at h
    subst h
    refine ⟨?_, fun _ => hbefore rfl⟩
    dsimp only
    split <;> trivial
  | removeBefore =>
    simp only [stepRun, Option.some.injEq] at h
    subst h
    exact ⟨trivial, fun _ => hbefore rfl⟩
  | createReply =>
    simp only [stepRun] at h
    split at h
    · obtain rfl := Option.some.inj h
      refine ⟨?_, fun _ => hbefore rfl⟩
      dsimp only
      split
      case isTrue hreply => exact hreply
      case isFalse => exact ⟨by simp, trivial⟩
    · obtain rfl := Option.some.inj h
      exact hs.raise _ rfl
  | enterPark =>
    have hclient : client.queues.clientQueue = true := hs.ready
    simp only [stepRun, hbefore rfl, Option.some.injEq] at h
    subst h
    exact queuesReady_past hclient rfl
  | removeEntered =>
    simp only [stepRun, Option.some.injEq] at h
    subst h
    split
    · exact queuesReady_past trivial rfl
    · exact queuesReady_past ⟨by simp, trivial⟩ rfl
  | logEntered =>
    simp only [stepRun] at h
    split at h
    · obtain rfl := Option.some.inj h
      exact queuesReady_past trivial rfl
    · obtain rfl := Option.some.inj h
      exact hs.raise _ rfl
  | loopHead =>
    simp only [stepRun, Option.some.injEq] at h
    subst h
    split
    · exact queuesReady_past trivial rfl
    · exact queuesReady_past ⟨by simp, trivial⟩ rfl
  | choose =>
    simp only [stepRun, Option.ite_none_right_eq_some, Option.some.injEq] at h
    obtain ⟨-, rfl⟩ := h
    split <;> exact queuesReady_past trivial rfl
  | drawAfter =>
    simp only [stepRun, Option.some.injEq] at h
    subst h
    split <;> exact queuesReady_past trivial rfl
  | removeAfter =>
    simp only [stepRun, Option.some.injEq] at h
    subst h
    exact queuesReady_past ⟨by simp, trivial⟩ rfl
  | visited | removeVisited | removeLeft | removeClosed | logClosed =>
    simp only [stepRun, Option.some.injEq] at h
    subst h
    exact queuesReady_past trivial rfl
  | finished | crashed => simp [ClientSystem.stepRun] at h

theorem QueuesReady.interrupted (hs : s.QueuesReady) :
    QueuesReady ⟨{ s.client with evac := true }, s.point.interrupted⟩ := by
  obtain ⟨client, point⟩ := s
  have hbefore : point.beforePark = true → client.enteredPark = false := hs.before
  cases point with
  | restaurant visit p => cases p with
    | waiting => exact ⟨trivial, fun h => hbefore (by cases visit <;> first | rfl | cases h)⟩
    | _ => exact ⟨hs.ready, hbefore⟩
  | attraction attractionID p => cases p with
    | waiting => exact ⟨trivial, hbefore⟩
    | _ => exact ⟨hs.ready, hbefore⟩
  | _ => exact ⟨hs.ready, hbefore⟩

theorem QueuesReady.step (hs : s.QueuesReady) {a : ClientAction} (ha : s.RepliesExpected a)
    (h : s.step a = some t) : t.QueuesReady := by
  cases a with
  | run x => exact hs.stepRun ha h
  | closePark =>
    obtain rfl := Option.some.inj h
    exact ⟨hs.ready, hs.before⟩
  | sigUsr1 logged =>
    simp only [ClientSystem.step, Option.ite_none_left_eq_some, Option.some.injEq] at h
    obtain ⟨-, rfl⟩ := h
    cases logged with
    | error e => exact hs.raise _ rfl
    | ok u => exact hs.interrupted

theorem ready_pointer {point : ClientPoint} (h : point.Ready q) :
    point.pointer q ≠ some false := by
  cases point with
  | restaurant visit p =>
    cases p <;> simp_all [ClientPoint.Ready, ClientPoint.pointer, RestaurantPoint.Ready,
      RestaurantPoint.pointer]
  | attraction attractionID p =>
    cases p <;> simp_all [ClientPoint.Ready, ClientPoint.pointer, AttractionPoint.Ready,
      AttractionPoint.pointer]
  | enter p =>
    cases p <;> simp_all [ClientPoint.Ready, ClientPoint.pointer, EnterPoint.Ready,
      EnterPoint.pointer]
  | leave call p =>
    cases p <;> simp_all [ClientPoint.Ready, ClientPoint.pointer, LeavePoint.Ready,
      LeavePoint.pointer]
  | _ => simp [ClientPoint.pointer]

theorem QueuesReady.noMissingQueue (hs : s.QueuesReady) : s.NoMissingQueue := by
  refine ⟨fun hcrashed => ?_, ready_pointer hs.ready⟩
  have hready := hs.ready
  rw [hcrashed] at hready
  exact hready

/-- After a successful send without a reply queue, the wait for a bill goes through a null
pointer. -/
theorem not_noMissingQueue_of_sent {a : ClientAction} (ha : ¬ s.RepliesExpected a)
    (h : s.step a = some t) : ¬ t.NoMissingQueue := by
  cases a with
  | closePark | sigUsr1 => exact absurd trivial ha
  | run x =>
    obtain ⟨client, point⟩ := s
    simp only [RepliesExpected, Classical.not_imp, not_or, not_and, Bool.not_eq_true,
      Bool.not_eq_false] at ha
    obtain ⟨hsent, hbill, hreply⟩ := ha
    cases point with
    | leave call p => cases p with
      | sent result => cases result with
        | false => cases hsent
        | true =>
          have hgoes : (client.data.isVip && !client.visitedRestaurant) = false := by
            cases hvip : client.data.isVip with
            | false => rfl
            | true => simp [hbill hvip]
          simp only [ClientSystem.step, ClientSystem.stepRun, LeavePoint.step, hgoes, follow,
            Bool.false_eq_true, if_false, if_true, Option.some.injEq] at h
          subst h
          rintro ⟨-, hpointer⟩
          simp [ClientPoint.pointer, LeavePoint.pointer, hreply] at hpointer
      | _ => cases hsent
    | _ => cases hsent

/-- A call through a null pointer is what the next step makes. -/
theorem crashes_of_missing (hnull : s.point.pointer s.client.queues = some false)
    (x : CallOutcome) : s.stepRun x = some { s with point := .crashed } := by
  obtain ⟨client, point⟩ := s
  cases point with
  | restaurant visit p =>
    cases p <;> simp_all [ClientPoint.pointer, RestaurantPoint.pointer, ClientSystem.stepRun,
      RestaurantPoint.step, through, follow]
  | attraction attractionID p =>
    cases p <;> simp_all [ClientPoint.pointer, AttractionPoint.pointer, ClientSystem.stepRun,
      AttractionPoint.step, through, follow]
  | enter p =>
    cases p <;> simp_all [ClientPoint.pointer, EnterPoint.pointer, ClientSystem.stepRun,
      EnterPoint.step, through, follow]
  | leave call p =>
    cases p <;> simp_all [ClientPoint.pointer, LeavePoint.pointer, ClientSystem.stepRun,
      LeavePoint.step, through, follow]
  | _ => simp [ClientPoint.pointer] at hnull

/-- In a run of any client, all calls go through queues that are set if and only if, whenever the
exit message has been sent, the client is a VIP that has not eaten in the park or has a reply
queue. -/
theorem noMissingQueue_iff (pid : Pid) (data : ClientData) (isOpen : Bool)
    (as : List ClientAction) :
    machine.Always NoMissingQueue (started pid data isOpen) as ↔
      machine.Meets RepliesExpected (started pid data isOpen) as :=
  Machine.always_iff_meets (fun _ hs => QueuesReady.noMissingQueue hs)
    (fun _ _ _ hs ha h => QueuesReady.step hs ha h)
    (fun _ _ _ _ ha h => not_noMissingQueue_of_sent ha h) as ⟨trivial, fun _ => rfl⟩

/-! ## A client without a reply queue, and a VIP that has eaten -/

def ordinaryClient : ClientData := ⟨false, false, .h2, ⟨30, 180⟩, ⟨0, 0⟩⟩

/-- Calls that succeed, with the given result of `mq_open` and the given reply. -/
def smoothCall (opened : Except QueueErrno Unit) (reply : Option ClientMQMessage) :
    CallOutcome :=
  ⟨opened, .ok true, .ok reply, .ok (), false, false, 0⟩

def parkPermitCall : CallOutcome :=
  smoothCall (.ok ()) (some ⟨100, .parkEntryPermit, .parkEntryPermit true⟩)

def mealPermitCall : CallOutcome :=
  smoothCall (.ok ()) (some ⟨101, .attractionEntryPermit, .attractionEntryPermit true 51⟩)

/-- From `pInitImpl` to the loop of `Run`, without a visit to the restaurant before. -/
def intoPark : List ClientAction := List.replicate 13 (.run parkPermitCall)

/-- The time is over, and `mq_open` fails with `EMFILE` for the reply queue of the exit. -/
def leaveWithoutReply : List ClientAction :=
  intoPark ++ List.replicate 2 (.run parkPermitCall) ++
    [.run (smoothCall (.error .emfile) none)] ++ List.replicate 5 (.run parkPermitCall)

/-- A meal in the park, and the exit when the time is over. -/
def eatAndLeave : List ClientAction :=
  intoPark ++ List.replicate 2 (.run { mealPermitCall with choice := true, attractionID := 16 }) ++
    List.replicate 24 (.run mealPermitCall)

/-- An ordinary client leaves without a reply queue, and a VIP after a meal. -/
theorem leaveWithoutReply_missing :
    ¬ machine.Always NoMissingQueue (started 7 ordinaryClient true) leaveWithoutReply ∧
    ¬ machine.Always NoMissingQueue (started 7 ⟨true, false, .vip, ⟨30, 180⟩, ⟨0, 0⟩⟩ true)
      eatAndLeave := by
  decide +kernel

end ClientSystem
end AmusementPark.Client
