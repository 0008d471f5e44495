import AmusementPark.Cashier.CashierProc
import AmusementPark.Worker.PermitCalls
import AmusementPark.Library.Machine

/-! # Admissions at the cashier

`CashierProc::Run` with `pRegisterClient` cut at its calls and at its two
writes, and the two signals of the cashier, which may arrive between any two of
them.
-/
namespace AmusementPark.Cashier
open Library Library.Outcome

/-- The points of `pRegisterClient`: its tests, `pCreateReplyMQ`, `pSendReply`, `ReceiveMessage`,
the log message, the two writes, and the `catch` block. -/
inductive RegisterPoint where
  | begin
  | opening (content : EnterPark) (allowed : Bool)
  | sending (content : EnterPark) (allowed : Bool)
  | receiving (content : EnterPark)
  | acked (content : EnterPark)
  | counting (content : EnterPark)
  | recording (content : EnterPark) (entryTime : ℤ)
  | catching
deriving DecidableEq

def RegisterPoint.step (isOpen : Bool) (parkSize : ℕ) (message : RegisterMQMessage)
    (x : ReplyOutcome) (c : CashierProc) :
    RegisterPoint → Outcome CashierProc RegisterPoint Bool Exn
  | .begin => match message.content with
    | .exitPark _ => (c, .throws .badVariantAccess)
    | .enterPark content =>
      if (parkSize : ℤ) < c.clientCounter + partySize content.hasChild ∧ isOpen = true then
        (c, .returns false)
      else (c, .next (.opening content isOpen))
  | .opening content allowed => call c x.opened fun opened =>
      (c, if opened then .next (.sending content allowed) else .returns true)
  | .sending content allowed => call c x.sent fun sent =>
      (c, if sent && allowed then .next (.receiving content) else .returns true)
  | .receiving content => call c x.acknowledged fun acked =>
      (c, if acked then .next (.acked content) else .returns true)
  | .acked content => call c x.logged fun _ => (c, .next (.counting content))
  | .counting content =>
    ({ c with clientCounter := c.clientCounter + partySize content.hasChild },
      .next (.recording content x.now))
  | .recording content entryTime => ({ c with
      clients := c.clients.insert message.senderPID
        ⟨content.hasChild, content.isVip, entryTime, content.ticketType⟩ }, .returns true)
  | .catching => call c x.caught fun _ => (c, .returns true)

/-- The whole of `pRegisterClient` but its `catch` block is inside the `try`. -/
def RegisterPoint.handler : RegisterPoint → Option RegisterPoint
  | .catching => none
  | _ => some .catching

/-- Where `Run` stands; a call of `pRegisterClient` belongs to one of its two inner loops. -/
inductive AdmissionPoint where
  | loopHead
  | handling
  | dispatching (registerMsg : RegisterMQMessage)
  | vipLoop
  | ordinaryLoop
  | registering (vip : Bool) (message : RegisterMQMessage) (p : RegisterPoint)
  | logging
  | stopped
deriving DecidableEq

structure AdmissionSystem where
  proc : CashierProc
  isOpen : Bool
  point : AdmissionPoint
deriving DecidableEq

/-- What the calls of a step return: `GetMessageCount`, `ReceiveMessage` on the register queue, and
the calls of an exchange with a client. -/
structure AdmissionOutcome where
  messageCount : ℤ
  request : Except Exn (Option RegisterMQMessage)
  reply : ReplyOutcome

inductive AdmissionAction where
  | run (x : AdmissionOutcome)
  | closePark
  | sigUsr1
  | sigTerm (logged : Except Exn Unit)

/-- `pSignalAllClients`: the receivers of `SIGUSR1`. -/
def CashierProc.pSignalAllClients (c : CashierProc) : List Pid := c.clients.keys

namespace AdmissionSystem

/-- The cashier after `Init`. -/
def init : AdmissionSystem := ⟨.init, true, .loopHead⟩

/-- The end of an inner loop's round: the head of the queue is erased if the call has returned
true, and the loop is left otherwise. -/
def returned (s : AdmissionSystem) (c : CashierProc) (vip : Bool) : Bool → AdmissionSystem
  | true => if vip then
      { s with proc := { c with enterVipQueue := c.enterVipQueue.tail }, point := .vipLoop }
    else { s with proc := { c with enterQueue := c.enterQueue.tail }, point := .ordinaryLoop }
  | false => { s with proc := c, point := if vip then .ordinaryLoop else .logging }

/-- Where an exception leads: into the `catch` block of `pRegisterClient`, past the two of
`pHandleRegisterMQ`, the first of which deregisters the sender of an exit, or out of `Run`. -/
def raise (s : AdmissionSystem) : AdmissionSystem :=
  match s.point with
  | .dispatching registerMsg => { s with
      proc := if registerMsg.mType = .exitPark then
        CashierProc.pRemoveClient registerMsg.senderPID s.proc else s.proc
      point := .vipLoop }
  | .registering vip message p =>
    { s with point := p.handler.elim .stopped (.registering vip message) }
  | _ => { s with point := .stopped }

/-- Continue with `pRegisterClient`, or after it. -/
def follow (s : AdmissionSystem) (vip : Bool) (message : RegisterMQMessage)
    (o : Outcome CashierProc RegisterPoint Bool Exn) : AdmissionSystem :=
  match o.2 with
  | .next q => { s with proc := o.1, point := .registering vip message q }
  | .returns r => s.returned o.1 vip r
  | .throws _ | .crashes => ({ s with proc := o.1 } : AdmissionSystem).raise

def stepRun (parkSize : ℕ) (s : AdmissionSystem) (x : AdmissionOutcome) :
    Option AdmissionSystem :=
  match s.point with
  | .loopHead => some { s with
      point := if (s.isOpen || !s.proc.clients.entries.isEmpty || 0 < x.messageCount) &&
        !s.proc.terminated then .handling else .stopped }
  | .handling => match x.request with
    | .error _ => some { s with point := .stopped }
    | .ok none => some { s with point := .vipLoop }
    | .ok (some registerMsg) => some { s with point := .dispatching registerMsg }
  | .dispatching registerMsg => some { s with
      proc := CashierProc.pHandleRegisterMQ registerMsg x.reply s.proc
      point := .vipLoop }
  | .vipLoop => match s.proc.enterVipQueue with
    | [] => some { s with point := .ordinaryLoop }
    | message :: _ => some { s with point := .registering true message .begin }
  | .ordinaryLoop => match s.proc.enterVipQueue, s.proc.enterQueue with
    | [], message :: _ => some { s with point := .registering false message .begin }
    | _, _ => some { s with point := .logging }
  | .registering vip message p =>
    some (s.follow vip message (p.step s.isOpen parkSize message x.reply s.proc))
  | .logging => match x.reply.logged with
    | .ok () => some { s with point := .loopHead }
    | .error _ => some { s with point := .stopped }
  | .stopped => none

def step (parkSize : ℕ) (s : AdmissionSystem) : AdmissionAction → Option AdmissionSystem
  | .run x => s.stepRun parkSize x
  | .closePark => some { s with isOpen := false }
  | .sigUsr1 => some s
  | .sigTerm logged => if s.isOpen then some s else match logged with
    | .ok () => some { s with proc := s.proc.handleSigTerm s.isOpen }
    | .error _ => some s.raise

def machine (parkSize : ℕ) : Machine AdmissionSystem AdmissionAction := ⟨step parkSize⟩

end AdmissionSystem

/-- A call of `pRegisterClient` that no signal interrupts computes `CashierProc.pRegisterClient`. -/
theorem RegisterPoint.ends_pRegisterClient (isOpen : Bool) (parkSize : ℕ)
    (message : RegisterMQMessage) (x : ReplyOutcome) (c : CashierProc) :
    Ends (fun c p => p.step isOpen parkSize message x c) handler c .begin
      (CashierProc.pRegisterClient isOpen parkSize message x c) := by
  have hcaught : Ends (fun c p => p.step isOpen parkSize message x c) handler c .catching
      (x.caught.map fun _ => true, c) := ReplyOutcome.ends_catching rfl rfl
  cases hcontent : message.content with
  | exitPark content =>
    simp only [CashierProc.pRegisterClient, hcontent]
    exact .caught (t := c) (e := .badVariantAccess) (by simp [step, hcontent]) rfl hcaught
  | enterPark content =>
    by_cases hfull : (parkSize : ℤ) < c.clientCounter + partySize content.hasChild ∧ isOpen = true
    · simp only [CashierProc.pRegisterClient, hcontent, if_pos hfull]
      exact .returns (by simp [step, hcontent, hfull])
    · simp only [CashierProc.pRegisterClient, hcontent, if_neg hfull]
      apply Ends.next (t := c) (q := .opening content isOpen) (by simp [step, hcontent, hfull])
      apply ReplyOutcome.ends_permitHandshake _ (.sending content isOpen) (.receiving content)
        (.acked content) (.counting content) .catching
      · rfl
      · rfl
      · rfl
      · rfl
      · exact .next rfl (.returns rfl)
      · simp [handler]
      · exact hcaught

end AmusementPark.Cashier
