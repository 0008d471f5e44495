import AmusementPark.Client.Queues

/-! # Reporting the exit

`pLeavePark` clears `m_enteredPark` before it opens the cashier's queue. From
there on a second call does nothing, so the first has to succeed: an error other
than `ENOENT`, a failed send or an exception leaves the exit unreported. In
`Close` nothing is tried after an exception either.
-/
namespace AmusementPark.Client
open Library Library.Outcome

/-- The exit messages on the cashier's queue. -/
def ClientState.exits (s : ClientState) : ℕ :=
  s.registerSent.countP fun msg => msg.mType = .exitPark

/-- Whether `m_enteredPark` has been true, and how the last `pGetRegisterMQ` went. -/
structure ExitHistory where
  entered : Bool
  lastOpen : Option (Except QueueErrno Unit)
deriving DecidableEq

/-- The next call is `pGetRegisterMQ`. -/
def ClientPoint.opensRegister : ClientPoint → Bool
  | .enter p => p = .getRegisterMQ
  | .leave _ p => p = .getRegisterMQ
  | _ => false

/-- An exception at this point leads past the report of the exit. -/
def ClientPoint.losesExit (s : ClientState) : ClientPoint → Bool
  | .leave _ .getRegisterMQ | .leave _ .sendExit => true
  | .leave .close .logFailed | .leave .close .clearEntered => true
  | .leave .close .testEntered => s.enteredPark
  | _ => false

namespace ClientSystem

def recordExit (h : ExitHistory) (s : ClientSystem) (a : ClientAction) (t : ClientSystem) :
    ExitHistory where
  entered := h.entered || t.client.enteredPark
  lastOpen := match a with
    | .run x => if s.point.opensRegister then some x.opened else h.lastOpen
    | .closePark | .sigUsr1 _ => h.lastOpen

def exitMachine : Machine (ClientSystem × ExitHistory) ClientAction := machine.observe recordExit

/-- At most one exit message is sent, and at the end a client that has entered has sent one or
has found the cashier's queue gone. -/
def ReportsExit (p : ClientSystem × ExitHistory) : Prop :=
  p.1.client.exits ≤ 1 ∧ (p.1.point = .finished → p.2.entered = true → p.1.client.exits = 0 →
    p.2.lastOpen = some (.error .enoent))

instance : DecidablePred ReportsExit := fun _ => inferInstanceAs (Decidable (_ ∧ (_ → _)))

/-- In `pLeavePark` the cashier's queue is opened or gone, and the message is sent; no exception
is thrown in between, nor in `Close` while the client has not left. -/
def ExitDelivered (p : ClientSystem × ExitHistory) : ClientAction → Prop
  | .run x => match p.1.point with
    | .leave _ .getRegisterMQ => x.opened = .ok () ∨ x.opened = .error .enoent
    | .leave _ .sendExit => x.sent = .ok true
    | .leave .close .logFailed => x.logged = .ok ()
    | _ => True
  | .sigUsr1 (.error _) => p.1.point.losesExit p.1.client = false
  | .sigUsr1 (.ok ()) | .closePark => True

instance decidableExitDelivered (p : ClientSystem × ExitHistory) :
    ∀ a, Decidable (ExitDelivered p a)
  | .run _ => by
    unfold ExitDelivered
    dsimp only
    split <;> infer_instance
  | .sigUsr1 (.error _) => inferInstanceAs (Decidable (_ = _))
  | .sigUsr1 (.ok ()) | .closePark => isTrue trivial

end ClientSystem

/-! ## Where the client stands towards the cashier -/

/-- The client is in the park. -/
def ClientState.InPark (s : ClientState) : Prop := s.enteredPark = true ∧ s.exits = 0

/-- The client owes the cashier nothing: it has reported its exit, has never entered, or has found
the queue gone. -/
def ClientState.Settled (s : ClientState) (h : ExitHistory) : Prop :=
  s.enteredPark = false ∧ (s.exits = 1 ∨
    s.exits = 0 ∧ (h.entered = false ∨ h.lastOpen = some (.error .enoent)))

theorem ClientState.Settled.exits_le_one {s : ClientState} {h : ExitHistory} (hs : s.Settled h) :
    s.exits ≤ 1 := by
  rcases hs.2 with hone | ⟨hzero, -⟩ <;> omega

def LeavePoint.Reporting (s : ClientState) (h : ExitHistory) : LeavePoint → Prop
  | .testEntered => s.InPark ∨ s.Settled h
  | .createReply | .logFailed | .clearEntered => s.InPark
  | .getRegisterMQ | .sendExit => s.enteredPark = false ∧ s.exits = 0
  | .sent true | .receiveBill | .logNoBill | .sendAck | .logPaid =>
    s.enteredPark = false ∧ s.exits = 1
  | .sent false | .logUnsent => False

def ClientPoint.Reporting (s : ClientState) (h : ExitHistory) : ClientPoint → Prop
  | .initFlags | .logStart | .testOpen | .drawBefore | .restaurant .beforePark _
  | .removeBefore | .createReply | .enterPark | .enter _ =>
    s.enteredPark = false ∧ s.exits = 0 ∧ h.entered = false
  | .removeEntered => s.InPark ∨ s.Settled h
  | .logEntered | .loopHead | .choose | .restaurant .inPark _ | .attraction _ _ | .visited _
  | .removeVisited => s.InPark
  | .leave call p => call ≠ .entering ∧ p.Reporting s h
  | .removeLeft | .drawAfter | .restaurant .afterPark _ | .removeAfter | .removeClosed
  | .logClosed | .finished => s.Settled h
  | .crashed => s.exits ≤ 1

variable {s : ClientState} {x : CallOutcome} {h h' : ExitHistory}

theorem ClientState.exits_sendRegister (s : ClientState) (msg : RegisterMQMessage)
    (result : Bool) : (s.sendRegister msg result).exits =
      s.exits + if result = true ∧ msg.mType = .exitPark then 1 else 0 := by
  cases result <;> by_cases hexit : msg.mType = .exitPark <;> simp [exits, sendRegister, hexit]

/-- A queue that was opened has been handed out. -/
theorem CallOutcome.opened_eq_enoent (errorHandler : QueueErrno → Bool)
    (hopened : x.opened = .ok () ∨ x.opened = .error .enoent)
    (hqueue : x.openMessageQueue errorHandler ≠ .ok true) : x.opened = .error .enoent := by
  obtain hok | hgone := hopened
  · simp [openMessageQueue, hok] at hqueue
  · exact hgone

/-- What `pLeavePark` does to a client towards the cashier. -/
def leavePost (h : ExitHistory) (x : CallOutcome) (close : Bool) (p : LeavePoint) :
    Post ClientState LeavePoint Unit where
  next s q := q ≠ .testEntered ∧ q.Reporting s h
  returns s _ := s.Settled ⟨h.entered, if p = .getRegisterMQ then some x.opened else h.lastOpen⟩
  throws s := match p with
    | .createReply => s.InPark
    | .logFailed => s.InPark ∧ close = false
    | _ => s.Settled ⟨h.entered, if p = .getRegisterMQ then some x.opened else h.lastOpen⟩
  crashes s := s.exits ≤ 1

theorem LeavePoint.reporting_step {p : LeavePoint} (close : Bool) (hp : p.Reporting s h)
    (hopened : p = .getRegisterMQ → x.opened = .ok () ∨ x.opened = .error .enoent)
    (hsent : p = .sendExit → x.sent = .ok true)
    (hlogged : close = true → p = .logFailed → x.logged = .ok ()) :
    (p.step s x).Satisfies (leavePost h x close p) := by
  cases p with
  | testEntered =>
    simp only [step, satisfies_ite]
    refine ⟨fun hentered => ?_, fun hleft => ?_⟩
    · obtain hpark | hsettled := hp
      · cases s.data.isVip <;> exact ⟨by simp, hpark⟩
      · rw [hsettled.1] at hentered
        cases hentered
    · obtain hpark | hsettled := hp
      · exact absurd hpark.1 hleft
      · exact hsettled
  | createReply =>
    simp only [step, Queues.pCreateReplyMQ, satisfies_call_map]
    refine ⟨fun _ _ => hp, fun r _ => ?_⟩
    cases r <;> exact ⟨by simp, hp⟩
  | logFailed =>
    simp only [step, satisfies_call]
    refine ⟨fun e he => ⟨hp, ?_⟩, fun _ _ => ⟨by simp, hp⟩⟩
    cases close with
    | false => rfl
    | true =>
      rw [hlogged rfl rfl] at he
      cases he
  | clearEntered => exact ⟨by simp, rfl, hp.2⟩
  | getRegisterMQ =>
    simp only [step, Queues.pGetRegisterMQ, satisfies_call_map, satisfies_ite]
    have hgone := CallOutcome.opened_eq_enoent (fun errno => errno = .enoent) (hopened rfl)
    refine ⟨fun e he => ⟨hp.1, .inr ⟨hp.2, .inr ?_⟩⟩, fun r hr => ⟨fun _ => ?_, fun hnone =>
      ⟨hp.1, .inr ⟨hp.2, .inr ?_⟩⟩⟩⟩
    · simp [hgone (by rw [he]; simp)]
    · exact ⟨by simp, hp⟩
    · have hr' : r = false := by simpa using hnone
      simp [hgone (by rw [hr, hr']; simp)]
  | sendExit =>
    simp only [step, satisfies_through, satisfies_call]
    refine ⟨fun _ => (hp.2.trans_le zero_le_one), fun _ => ⟨fun e he => ?_, fun r hr => ?_⟩⟩
    · simp [pSendMQMessage, CallOutcome.sendMessage, hsent rfl] at he
    · obtain rfl : r = true := by
        simpa [pSendMQMessage, CallOutcome.sendMessage, hsent rfl, eq_comm] using hr
      refine ⟨by simp, hp.1, ?_⟩
      rw [ClientState.exits_sendRegister, hp.2]
      rfl
  | sent result => cases result with
    | false => exact hp.elim
    | true =>
      simp only [step, satisfies_ite]
      exact ⟨fun _ => ⟨hp.1, .inl hp.2⟩, fun _ => ⟨by simp, hp⟩⟩
  | logUnsent => exact hp.elim
  | receiveBill =>
    simp only [step, satisfies_through, satisfies_call]
    refine ⟨fun _ => hp.2.le, fun _ => ⟨fun _ _ => ⟨hp.1, .inl hp.2⟩, fun msg _ => ?_⟩⟩
    cases msg with
    | none => exact ⟨by simp, hp⟩
    | some msg =>
      simp only [satisfies_call, satisfies_ite]
      exact ⟨fun _ _ => ⟨hp.1, .inl hp.2⟩, fun r _ => ⟨fun _ => ⟨by simp, hp⟩,
        fun _ => ⟨hp.1, .inl hp.2⟩⟩⟩
  | sendAck =>
    simp only [step, satisfies_through, satisfies_call]
    exact ⟨fun _ => hp.2.le, fun _ => ⟨fun _ _ => ⟨hp.1, .inl hp.2⟩, fun _ _ =>
      ⟨by simp, hp⟩⟩⟩
  | logNoBill | logPaid =>
    simp only [step, satisfies_call]
    exact ⟨fun _ _ => ⟨hp.1, .inl hp.2⟩, fun _ _ => ⟨hp.1, .inl hp.2⟩⟩

theorem LeavePoint.reporting_of_ne {p : LeavePoint} (hp : p.Reporting s h)
    (hne : p ≠ .testEntered) : p.Reporting s h' := by
  cases p with
  | testEntered => exact absurd rfl hne
  | sent result => cases result <;> exact hp
  | _ => exact hp

theorem EnterPoint.step_frame (p : EnterPoint) :
    (p.step s x).1.enteredPark = s.enteredPark ∧ (p.step s x).1.exits = s.exits := by
  cases p with
  | getRegisterMQ | receivePermit | sendAck =>
    simp only [step, call, through]
    (repeat' split) <;> exact ⟨rfl, rfl⟩
  | sendEnter =>
    simp only [step, call, through]
    repeat' split
    · refine ⟨rfl, ?_⟩
      exact (ClientState.exits_sendRegister s _ _).trans (by simp [ClientProc.enterParkMessage])
    · exact ⟨rfl, rfl⟩
    · exact ⟨rfl, rfl⟩
    · exact ⟨rfl, rfl⟩

/-- Where an exception does not lead past the report, the client still owes it or has settled. -/
theorem ClientPoint.reporting_raise {point : ClientPoint} (hp : point.Reporting s h)
    (hsafe : point.losesExit s = false) : point.raise.Reporting s h := by
  have hclose (hp : s.InPark ∨ s.Settled h) : ClientPoint.close.Reporting s h :=
    ⟨by simp, hp⟩
  cases point with
  | initFlags | logStart | testOpen | drawBefore | removeBefore | createReply | enterPark | enter =>
    exact hclose (.inr ⟨hp.1, .inr ⟨hp.2.1, .inl hp.2.2⟩⟩)
  | restaurant visit p =>
    cases visit with
    | beforePark =>
      cases p <;> first | exact hp | exact hclose (.inr ⟨hp.1, .inr ⟨hp.2.1, .inl hp.2.2⟩⟩)
    | inPark => cases p <;> exact hp
    | afterPark => cases p <;> first | exact hp | exact hclose (.inr hp)
  | removeEntered => exact hclose hp
  | logEntered | loopHead | choose | visited | removeVisited => exact hclose (.inl hp)
  | attraction => exact hp
  | removeLeft | drawAfter | removeAfter => exact hclose (.inr hp)
  | leave call p =>
    obtain ⟨hcall, hp⟩ := hp
    cases call with
    | entering => exact absurd rfl hcall
    | run => cases p with
      | testEntered => exact hclose hp
      | createReply => exact ⟨hcall, hp⟩
      | logFailed | clearEntered => exact hclose (.inl hp)
      | getRegisterMQ | sendExit => cases hsafe
      | sent result => cases result with
        | false => exact hp.elim
        | true => exact hclose (.inr ⟨hp.1, .inl hp.2⟩)
      | logUnsent => exact hp.elim
      | receiveBill | logNoBill | sendAck | logPaid => exact hclose (.inr ⟨hp.1, .inl hp.2⟩)
    | close => cases p with
      | testEntered =>
        obtain hpark | hsettled := hp
        · exact absurd (hpark.1.symm.trans hsafe) (by simp)
        · exact hsettled
      | createReply => exact ⟨hcall, hp⟩
      | logFailed | clearEntered | getRegisterMQ | sendExit => cases hsafe
      | sent result => cases result with
        | false => exact hp.elim
        | true => exact ⟨hp.1, .inl hp.2⟩
      | logUnsent => exact hp.elim
      | receiveBill | logNoBill | sendAck | logPaid => exact ⟨hp.1, .inl hp.2⟩
  | removeClosed | logClosed | finished | crashed => exact hp

theorem ClientPoint.reporting_congr {t : ClientState} {point : ClientPoint}
    (hentered : t.enteredPark = s.enteredPark) (hexits : t.exits = s.exits)
    (hp : point.Reporting s h) : point.Reporting t h := by
  have hpark : t.InPark = s.InPark := by simp only [ClientState.InPark, hentered, hexits]
  have hsettled : t.Settled h = s.Settled h := by
    simp only [ClientState.Settled, hentered, hexits]
  cases point with
  | restaurant visit p => cases visit <;> simpa only [Reporting, *] using hp
  | leave call p =>
    refine ⟨hp.1, ?_⟩
    cases p with
    | sent result => cases result <;> simpa only [LeavePoint.Reporting, *] using hp.2
    | _ => simpa only [LeavePoint.Reporting, *] using hp.2
  | _ => simpa only [Reporting, *] using hp

theorem ClientPoint.reporting_interrupted {point : ClientPoint} (hp : point.Reporting s h) :
    point.interrupted.Reporting s h := by
  cases point with
  | restaurant visit p => cases visit <;> cases p <;> exact hp
  | attraction attractionID p => cases p <;> exact hp
  | _ => exact hp

/-- Nothing depends on the history while the client is in the park. -/
theorem ClientPoint.reporting_of_entered {point : ClientPoint} (hp : point.Reporting s h)
    (hentered : s.enteredPark = true) : point.Reporting s h' := by
  have hpark (hp : s.InPark ∨ s.Settled h) : s.InPark ∨ s.Settled h' :=
    hp.imp_right fun hs => absurd (hentered.symm.trans hs.1) (by simp)
  have hout (hp : s.enteredPark = false) {P : Prop} : P :=
    absurd (hentered.symm.trans hp) (by simp)
  cases point with
  | initFlags | logStart | testOpen | drawBefore | removeBefore | createReply | enterPark | enter =>
    exact hout hp.1
  | restaurant visit p =>
    cases visit with
    | inPark => exact hp
    | beforePark | afterPark => exact hout hp.1
  | removeEntered => exact hpark hp
  | leave call p => cases p with
    | testEntered => exact ⟨hp.1, hpark hp.2⟩
    | createReply | logFailed | clearEntered => exact hp
    | sent result => cases result <;> exact hp
    | logUnsent => exact hp
    | getRegisterMQ | sendExit | receiveBill | logNoBill | sendAck | logPaid => exact hout hp.2.1
  | logEntered | loopHead | choose | attraction | visited | removeVisited | crashed => exact hp
  | removeLeft | drawAfter | removeAfter | removeClosed | logClosed | finished => exact hout hp.1

/-- It makes no difference to what is owed that a client in the park is recorded as having
entered. -/
theorem ClientPoint.reporting_record {point : ClientPoint} (hp : point.Reporting s h) :
    point.Reporting s ⟨h.entered || s.enteredPark, h.lastOpen⟩ := by
  cases hentered : s.enteredPark with
  | false =>
    rw [Bool.or_false]
    exact hp
  | true => exact ClientPoint.reporting_of_entered hp hentered

namespace ClientSystem

/-- What the client owes the cashier fits where it stands. -/
def Reported (h : ExitHistory) (s : ClientSystem) : Prop := s.point.Reporting s.client h

theorem Reported.reportsExit {p : ClientSystem × ExitHistory} (hp : Reported p.2 p.1) :
    ReportsExit p := by
  obtain ⟨⟨client, point⟩, h⟩ := p
  have hsettled (hs : client.Settled h) : client.exits ≤ 1 := hs.exits_le_one
  have hpark (hs : client.InPark) : client.exits ≤ 1 := hs.2.trans_le zero_le_one
  refine ⟨?_, fun hfinished hentered hzero => ?_⟩
  · cases point with
    | initFlags | logStart | testOpen | drawBefore | removeBefore | createReply | enterPark
    | enter => exact hp.2.1.trans_le zero_le_one
    | restaurant visit p =>
      cases visit with
      | beforePark => exact hp.2.1.trans_le zero_le_one
      | inPark => exact hpark hp
      | afterPark => exact hsettled hp
    | removeEntered => exact hp.elim hpark hsettled
    | logEntered | loopHead | choose | attraction | visited | removeVisited => exact hpark hp
    | leave call p =>
      obtain ⟨-, hp⟩ := hp
      cases p with
      | testEntered => exact hp.elim hpark hsettled
      | createReply | logFailed | clearEntered => exact hpark hp
      | getRegisterMQ | sendExit => exact hp.2.trans_le zero_le_one
      | sent result => cases result with
        | false => exact hp.elim
        | true => exact hp.2.le
      | logUnsent => exact hp.elim
      | receiveBill | logNoBill | sendAck | logPaid => exact hp.2.le
    | removeLeft | drawAfter | removeAfter | removeClosed | logClosed | finished =>
      exact hsettled hp
    | crashed => exact hp
  · obtain rfl : point = .finished := hfinished
    obtain ⟨-, hone | ⟨-, hnever | hgone⟩⟩ : client.Settled h := hp
    · exact absurd (hone.symm.trans hzero) one_ne_zero
    · exact absurd (hentered.symm.trans hnever) (by simp)
    · exact hgone

variable {s t : ClientSystem} {h : ExitHistory}

/-- The history of a step changes what is owed only by the outcome of `pGetRegisterMQ`. -/
theorem reported_record {a : ClientAction}
    (ht : Reported ⟨h.entered, (recordExit h s a t).lastOpen⟩ t) :
    Reported (recordExit h s a t) t :=
  ClientPoint.reporting_record ht

theorem reported_leave {client : ClientState} {call : LeaveCall} {p : LeavePoint}
    {x : CallOutcome} (hs : Reported h ⟨client, .leave call p⟩)
    (hx : ExitDelivered (⟨client, .leave call p⟩, h) (.run x))
    (ht : stepRun ⟨client, .leave call p⟩ x = some t) :
    Reported ⟨h.entered, if p = .getRegisterMQ then some x.opened else h.lastOpen⟩ t := by
  obtain ⟨hcall, hp⟩ := hs
  have hpost := LeavePoint.reporting_step (x := x) (call = .close) hp
    (by rintro rfl; exact hx) (by rintro rfl; exact hx)
    (by intro hclose hfailed; obtain rfl := of_decide_eq_true hclose; subst hfailed; exact hx)
  simp only [stepRun, Option.some.injEq] at ht
  subst ht
  apply follow_satisfies hpost
  · exact fun _ hnext => ⟨hcall, LeavePoint.reporting_of_ne hnext.2 hnext.1⟩
  · intro _ hreturns
    cases call with
    | entering => exact absurd rfl hcall
    | run | close => exact hreturns
  · intro hthrown
    -- caught around the creation of the reply queue, around Run, or around Close
    cases p with
    | createReply => exact ⟨hcall, hthrown⟩
    | logFailed => cases call with
      | entering => exact absurd rfl hcall
      | run => exact ⟨by simp, .inl hthrown.1⟩
      | close => cases hthrown.2
    | _ => cases call with
      | entering => exact absurd rfl hcall
      | run => exact ⟨by simp, .inr hthrown⟩
      | close => exact hthrown
  · exact id

theorem reported_stepRun {x : CallOutcome} (hs : Reported h s)
    (hx : ExitDelivered (s, h) (.run x)) (ht : s.stepRun x = some t) :
    Reported (recordExit h s (.run x) t) t := by
  apply reported_record
  obtain ⟨client, point⟩ := s
  cases point with
  | initFlags =>
    simp only [stepRun, Option.some.injEq] at ht
    subst ht
    exact ⟨rfl, hs.2⟩
  | restaurant visit p =>
    have hraise (queues : Queues) := ClientPoint.reporting_raise
      (ClientPoint.reporting_congr (t := { client with queues := queues }) rfl rfl hs) rfl
    simp only [stepRun, Option.some.injEq] at ht
    subst ht
    apply follow_rule
    · intro _ _
      cases visit <;> exact hs
    · intro _ _
      cases visit <;> exact hs
    · exact fun _ _ => hraise _
    · intro _
      cases visit with
      | beforePark => exact hs.2.1.trans_le zero_le_one
      | inPark => exact hs.2.trans_le zero_le_one
      | afterPark => exact hs.exits_le_one
  | attraction attractionID p =>
    simp only [stepRun, Option.some.injEq] at ht
    subst ht
    apply follow_rule
    · exact fun _ _ => hs
    · exact fun _ _ => hs
    · exact fun _ _ => hs
    · exact fun _ => hs.2.trans_le zero_le_one
  | enter p =>
    obtain ⟨hentered, hexits⟩ := EnterPoint.step_frame (s := client) (x := x) p
    simp only [stepRun, Option.some.injEq] at ht
    subst ht
    have hout : (p.step client x).1.enteredPark = false := hentered.trans hs.1
    have hzero : (p.step client x).1.exits = 0 := hexits.trans hs.2.1
    apply follow_rule
    · exact fun _ _ => ⟨hout, hzero, hs.2.2⟩
    · intro r _
      cases r with
      | false => exact .inr ⟨rfl, .inr ⟨hzero, .inl hs.2.2⟩⟩
      | true => exact .inl ⟨rfl, hzero⟩
    · exact fun _ _ => ⟨by simp, .inr ⟨hout, .inr ⟨hzero, .inl hs.2.2⟩⟩⟩
    · exact fun _ => hzero.trans_le zero_le_one
  | leave call p =>
    have hleave := reported_leave hs hx ht
    simp only [recordExit, ClientPoint.opensRegister, decide_eq_true_eq]
    exact hleave
  | logStart | logEntered =>
    have hraise := ClientPoint.reporting_raise hs rfl
    simp only [stepRun] at ht
    split at ht
    · obtain rfl := Option.some.inj ht
      exact hs
    · obtain rfl := Option.some.inj ht
      exact hraise
  | testOpen | drawBefore =>
    have hclose := ClientPoint.reporting_raise hs rfl
    simp only [stepRun, Option.some.injEq] at ht
    subst ht
    split
    · exact hs
    · first | exact hs | exact hclose
  | removeBefore | removeVisited | removeLeft | removeClosed | logClosed =>
    simp only [stepRun, Option.some.injEq] at ht
    subst ht
    exact hs
  | createReply =>
    have hclose := ClientPoint.reporting_raise hs rfl
    simp only [stepRun] at ht
    split at ht
    · obtain rfl := Option.some.inj ht
      split
      · exact hs
      · exact hclose
    · obtain rfl := Option.some.inj ht
      exact hclose
  | enterPark =>
    have hout : client.enteredPark = false := hs.1
    simp only [stepRun, hout, Option.some.injEq] at ht
    subst ht
    exact hs
  | removeEntered =>
    simp only [stepRun, Option.some.injEq] at ht
    subst ht
    split
    case isTrue hentered =>
      obtain hpark | hsettled := hs
      · exact hpark
      · exact absurd (hentered.symm.trans hsettled.1) (by simp)
    case isFalse => exact ⟨by simp, hs⟩
  | loopHead =>
    simp only [stepRun, Option.some.injEq] at ht
    subst ht
    split
    · exact hs
    · exact ⟨by simp, .inl hs⟩
  | choose =>
    simp only [stepRun, Option.ite_none_right_eq_some, Option.some.injEq] at ht
    obtain ⟨-, rfl⟩ := ht
    split <;> exact hs
  | visited attractionID =>
    simp only [stepRun, Option.some.injEq] at ht
    subst ht
    split <;> exact hs
  | drawAfter =>
    simp only [stepRun, Option.some.injEq] at ht
    subst ht
    split <;> exact hs
  | removeAfter =>
    simp only [stepRun, Option.some.injEq] at ht
    subst ht
    exact ⟨by simp, .inr hs⟩
  | finished | crashed => simp [stepRun] at ht

theorem reported_step {p q : ClientSystem × ExitHistory} {a : ClientAction}
    (hp : Reported p.2 p.1) (ha : ExitDelivered p a) (h : exitMachine.step p a = some q) :
    Reported q.2 q.1 := by
  obtain ⟨hstep, hrecord⟩ := Machine.observe_step.mp h
  obtain ⟨t, h'⟩ := q
  obtain rfl : recordExit p.2 p.1 a t = h' := hrecord
  cases a with
  | run x => exact reported_stepRun hp ha hstep
  | closePark =>
    apply reported_record
    obtain rfl := Option.some.inj hstep
    exact ClientPoint.reporting_congr rfl rfl hp
  | sigUsr1 logged =>
    apply reported_record
    simp only [machine, ClientSystem.step, Option.ite_none_left_eq_some,
      Option.some.injEq] at hstep
    obtain ⟨-, rfl⟩ := hstep
    cases logged with
    | ok u =>
      exact ClientPoint.reporting_interrupted (ClientPoint.reporting_congr rfl rfl hp)
    | error e =>
      exact ClientPoint.reporting_congr rfl rfl (ClientPoint.reporting_raise hp ha)

/-- In every run in which the exit is delivered wherever it is tried, it is reported once, unless
the cashier's queue is gone. -/
theorem reportsExit_of_delivered (pid : Pid) (data : ClientData) (isOpen : Bool)
    (as : List ClientAction)
    (has : exitMachine.Meets ExitDelivered (started pid data isOpen, ⟨false, none⟩) as) :
    exitMachine.Always ReportsExit (started pid data isOpen, ⟨false, none⟩) as :=
  Machine.always_of_meets (fun _ hp => Reported.reportsExit hp)
    (fun _ _ _ hp ha h => reported_step hp ha h) ⟨rfl, rfl, rfl⟩ has

/-- The park visit of an ordinary client without a visit to an attraction, and the exit, with the
given result of the exit's `mq_open` of the cashier's queue. -/
def visitAndLeave (opened : Except QueueErrno Unit) : List ClientAction :=
  intoPark ++ List.replicate 4 (.run parkPermitCall) ++ [.run (smoothCall opened none)] ++
    List.replicate 9 (.run parkPermitCall)

theorem visitAndLeave_reports : exitMachine.Always ReportsExit
    (started 7 ordinaryClient true, ⟨false, none⟩) (visitAndLeave (.ok ())) :=
  reportsExit_of_delivered 7 ordinaryClient true (visitAndLeave (.ok ())) (by decide +kernel)

/-- `mq_open` fails with `EMFILE` when the client opens the cashier's queue to leave: `Close` does
not try again, and the client ends unreported. -/
theorem visitAndLeave_unreported : ¬ exitMachine.Always ReportsExit
    (started 7 ordinaryClient true, ⟨false, none⟩) (visitAndLeave (.error .emfile)) := by
  decide +kernel

end ClientSystem
end AmusementPark.Client
