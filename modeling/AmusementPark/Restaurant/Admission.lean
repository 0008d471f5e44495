import AmusementPark.Restaurant.Rounds
import AmusementPark.Worker.PermitCalls

/-! # Admissions at the restaurant

`RestaurantProc::Run` with `pCreateAttractionHandler` and `pRegisterClient` cut
at their calls and writes. A round is filled in a local variable;
`HandleSigint` knows the clients of the installed one only.
-/
namespace AmusementPark.Restaurant
open Library Library.Outcome Worker

/-- The points of `pRegisterClient`: its tests, `pCreateReplyMQ`, `pSendReply`, `ReceiveMessage`,
the log message, `AddClient`, and the `catch` block. -/
inductive RegisterPoint where
  | begin
  | opening (content : EnterRestaurant) (allowed : Bool)
  | sending (content : EnterRestaurant) (allowed : Bool)
  | receiving (content : EnterRestaurant)
  | acked (content : EnterRestaurant)
  | adding (content : EnterRestaurant)
  | catching
deriving DecidableEq

def RegisterPoint.step (isOpen : Bool) (cfg : AttractionConfig) (message : RestaurantMQMessage)
    (x : ReplyOutcome) (handler : AttractionHandler) :
    RegisterPoint → Outcome AttractionHandler RegisterPoint Bool Exn
  | .begin => match message.content with
    | .emptyMessage => (handler, .throws .badVariantAccess)
    | .enterRestaurant content =>
      if cfg.maxClientsPerHandler < handler.getClientCount + partySize content.hasChild ∧
          isOpen = true then (handler, .returns false)
      else (handler, .next (.opening content isOpen))
  | .opening content allowed => call handler x.opened fun opened =>
      (handler, if opened then .next (.sending content allowed) else .returns true)
  | .sending content allowed => call handler x.sent fun sent =>
      (handler, if sent && allowed then .next (.receiving content) else .returns true)
  | .receiving content => call handler x.acknowledged fun acked =>
      (handler, if acked then .next (.acked content) else .returns true)
  | .acked content => call handler x.logged fun _ => (handler, .next (.adding content))
  | .adding content =>
    ((handler.addClient message.senderPID content.hasChild content.fromPark).2, .returns true)
  | .catching => call handler x.caught fun _ => (handler, .returns true)

/-- The whole of `pRegisterClient` but its `catch` block is inside the `try`. -/
def RegisterPoint.handler : RegisterPoint → Option RegisterPoint
  | .catching => none
  | _ => some .catching

/-- Where `Run` stands; while a round is being filled its handler is a local variable. -/
inductive AdmissionPoint where
  | loopHead
  | checking
  | dropping
  | receiving
  | dispatching (clientMsg : RestaurantMQMessage)
  | deciding
  | filling (newHandler : AttractionHandler)
  | registering (newHandler : AttractionHandler) (message : RestaurantMQMessage)
      (p : RegisterPoint)
  | installing (newHandler : AttractionHandler)
  | starting
  | announcing
  | stopped
deriving DecidableEq

/-- Where an exception in `pRegisterClient` leads: into its `catch` block, or out of `Run`. -/
def AdmissionPoint.thrown (newHandler : AttractionHandler) (message : RestaurantMQMessage)
    (p : RegisterPoint) : AdmissionPoint :=
  p.handler.elim .stopped (.registering newHandler message)

structure AdmissionSystem where
  proc : RestaurantProc
  isOpen : Bool
  point : AdmissionPoint

/-- What the calls of a step return: `ReceiveMessage` on the restaurant's queue, the calls of an
exchange with a client, and the clock. -/
structure AdmissionOutcome where
  request : Except Exn (Option RestaurantMQMessage)
  reply : ReplyOutcome

inductive AdmissionAction where
  | run (x : AdmissionOutcome)
  | closePark
  | sigUsr1 (logged : Except Exn Unit)
  | sigUsr2 (logged : Except Exn Unit)
  | sigInt

/-- The clients of a round that came from outside the park. -/
def outsiders (handler : AttractionHandler) : List Pid :=
  (handler.clientList.entries.filter fun client => !client.2.fromPark).map Sigma.fst

/-- `HandleSigint`: the receivers of `SIGUSR1`. -/
def RestaurantProc.handleSigint (r : RestaurantProc) : List Pid := r.handler.elim [] outsiders

namespace AdmissionSystem

/-- The restaurant after `Init`. -/
def init : AdmissionSystem := ⟨.init, true, .loopHead⟩

/-- Where any exception leads. In `pHandleRestaurantMQ` it leads past the two `catch` blocks, the
first of which removes the sender of an exit. -/
def raise (s : AdmissionSystem) : AdmissionSystem :=
  match s.point with
  | .dispatching clientMsg => { s with
      proc := if clientMsg.mType = .exitRestaurant then
        RestaurantProc.pRemoveClient clientMsg.senderPID s.proc else s.proc
      point := .deciding }
  | .registering newHandler message p =>
    { s with point := .thrown newHandler message p }
  | _ => { s with point := .stopped }

/-- Continue with `pRegisterClient`, or with the loop around it. -/
def follow (s : AdmissionSystem) (message : RestaurantMQMessage) (p : RegisterPoint)
    (o : Outcome AttractionHandler RegisterPoint Bool Exn) : AdmissionSystem :=
  match o.2 with
  | .next q => { s with point := .registering o.1 message q }
  | .returns true => { s with
      proc := { s.proc with enterQueue := s.proc.enterQueue.tail }
      point := .filling o.1 }
  | .returns false => { s with point := .installing o.1 }
  | .throws _ | .crashes => { s with point := .thrown o.1 message p }

def stepRun (cfg : AttractionConfig) (s : AdmissionSystem) (x : AdmissionOutcome) :
    Option AdmissionSystem :=
  match s.point with
  | .loopHead => some { s with
      point := if s.isOpen || s.proc.handler.any (!·.isEmpty) then .checking else .stopped }
  | .checking => some { s with
      point := if !s.proc.evac && !s.proc.paused && s.proc.handler.any (·.finished x.reply.now)
        then .dropping else .receiving }
  | .dropping => some { s with proc := { s.proc with handler := none }, point := .receiving }
  | .receiving => match x.request with
    | .error _ => some { s with point := .stopped }
    | .ok none => some { s with point := .deciding }
    | .ok (some clientMsg) => some { s with point := .dispatching clientMsg }
  | .dispatching clientMsg => some { s with
      proc := (RestaurantProc.pHandleRestaurantMQ clientMsg x.reply s.proc).1
      point := .deciding }
  | .deciding => some { s with
      point := if s.proc.handler.isNone && !s.proc.paused && !s.proc.evac
        then .filling (.construct (RestaurantSystem.handlerData cfg)) else .loopHead }
  | .filling newHandler => match s.proc.enterQueue with
    | [] => some { s with point := .installing newHandler }
    | message :: _ => some { s with point := .registering newHandler message .begin }
  | .registering newHandler message p =>
    some (s.follow message p (p.step s.isOpen cfg message x.reply newHandler))
  | .installing newHandler => some (if newHandler.isEmpty then { s with point := .loopHead }
      else { s with proc := { s.proc with handler := some newHandler }, point := .starting })
  | .starting => some { s with
      proc := { s.proc with handler := s.proc.handler.map (·.startAttraction x.reply.now) }
      point := .announcing }
  | .announcing => match x.reply.logged with
    | .ok () => some { s with point := .loopHead }
    | .error _ => some { s with point := .stopped }
  | .stopped => none

def step (cfg : AttractionConfig) (s : AdmissionSystem) :
    AdmissionAction → Option AdmissionSystem
  | .run x => s.stepRun cfg x
  | .closePark => some { s with isOpen := false }
  | .sigUsr1 logged => match logged with
    | .ok () => some { s with
        proc := RestaurantProc.closeAttraction { s.proc with paused := true } }
    | .error _ => some ({ s with proc := { s.proc with paused := true } } : AdmissionSystem).raise
  | .sigUsr2 logged => match logged with
    | .ok () => some { s with proc := { s.proc with paused := false } }
    | .error _ => some ({ s with proc := { s.proc with paused := false } } : AdmissionSystem).raise
  | .sigInt => some { s with proc := { s.proc with evac := true } }

def machine (cfg : AttractionConfig) : Machine AdmissionSystem AdmissionAction := ⟨step cfg⟩

end AdmissionSystem

/-- A call of `pRegisterClient` that no signal interrupts computes
`RestaurantProc.pRegisterClient`. -/
theorem RegisterPoint.ends_pRegisterClient (isOpen : Bool) (cfg : AttractionConfig)
    (message : RestaurantMQMessage) (x : ReplyOutcome) (h : AttractionHandler) :
    Ends (fun h p => p.step isOpen cfg message x h) handler h .begin
      (RestaurantProc.pRegisterClient isOpen cfg message x h) := by
  have hcaught : Ends (fun h p => p.step isOpen cfg message x h) handler h .catching
      (x.caught.map fun _ => true, h) := ReplyOutcome.ends_catching rfl rfl
  cases hcontent : message.content with
  | emptyMessage =>
    simp only [RestaurantProc.pRegisterClient, hcontent]
    exact .caught (t := h) (e := .badVariantAccess) (by simp [step, hcontent]) rfl hcaught
  | enterRestaurant content =>
    by_cases hfull : cfg.maxClientsPerHandler < h.getClientCount + partySize content.hasChild ∧
        isOpen = true
    · simp only [RestaurantProc.pRegisterClient, hcontent, if_pos hfull]
      exact .returns (by simp [step, hcontent, hfull])
    · simp only [RestaurantProc.pRegisterClient, hcontent, if_neg hfull]
      apply Ends.next (t := h) (q := .opening content isOpen) (by simp [step, hcontent, hfull])
      apply ReplyOutcome.ends_permitHandshake _ (.sending content isOpen) (.receiving content)
        (.acked content) (.adding content) .catching
      · rfl
      · rfl
      · rfl
      · rfl
      · exact .returns rfl
      · simp [handler]
      · exact hcaught

end AmusementPark.Restaurant
