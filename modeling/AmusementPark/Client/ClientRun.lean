import AmusementPark.Library.Machine
import AmusementPark.Library.Procedure
import AmusementPark.Client.ClientProc

/-! # The client process

`ClientProc` from `pInitImpl` to the end of `Close`, cut at its calls. A queue
pointer is known by whether it is set. `SIGUSR1` arrives between two steps or in
the `Wait` on a leave semaphore, and the log message of its handler may throw.
-/
namespace AmusementPark.Client
open Library

/-- `errno` after a failed `mq_open`, `mq_send` or `mq_timedsend`. -/
inductive QueueErrno where
  | enoent
  | enospc
  | enfile
  | enomem
  | emfile
  | ebadf
  | other
deriving DecidableEq

/-- What the call of a step returns: `mq_open`, `mq_send` with `false` for a send that timed out
or was interrupted, `ReceiveMessage`, `pLogMessage`, `Wait`, `RandomChance` or the test of the
time, and the draw of an attraction. -/
structure CallOutcome where
  opened : Except QueueErrno Unit
  sent : Except QueueErrno Bool
  received : Except Exn (Option ClientMQMessage)
  logged : Except Exn Unit
  waited : Bool
  choice : Bool
  attractionID : ℕ

namespace CallOutcome
variable (x : CallOutcome) (errorHandler : QueueErrno → Bool)

/-- Whether `OpenMessageQueue` hands out a queue; an error that the handler takes is logged. -/
def openMessageQueue : Except Exn Bool :=
  match x.opened with
  | .ok () => .ok true
  | .error errno => if errorHandler errno then x.logged.map fun _ => false
      else .error .runtimeError

def sendMessage : Except Exn Bool :=
  match x.sent with
  | .ok result => .ok result
  | .error errno => if errorHandler errno then x.logged.map fun _ => false
      else .error .runtimeError

end CallOutcome

/-! ## The queues -/

/-- Which of `m_clientQueue`, `m_registerMQ`, `m_attractionMQ` and `m_restaurantMQ` are set. -/
structure Queues where
  clientQueue : Bool
  registerMQ : Bool
  attractionMQ : Bool
  restaurantMQ : Bool
deriving DecidableEq

namespace Queues
variable (q : Queues) (x : CallOutcome)

/-- After `pRemoveAllMQs`. -/
def removed : Queues := ⟨false, false, false, false⟩

def pCreateReplyMQ : Except Exn Queues :=
  (x.openMessageQueue fun errno => errno = .enospc || errno = .enfile || errno = .enomem ||
    errno = .emfile).map fun r => { q with clientQueue := r }

def pCreateAttractionReplyMQ : Except Exn Queues :=
  (x.openMessageQueue fun errno => errno = .enospc).map fun r => { q with clientQueue := r }

def pGetRegisterMQ : Except Exn Queues :=
  (x.openMessageQueue fun errno => errno = .enoent).map fun r => { q with registerMQ := r }

def pGetAttractionMQ : Except Exn Queues :=
  (x.openMessageQueue fun errno => errno = .enoent).map fun r => { q with attractionMQ := r }

def pGetRestaurantMQ : Except Exn Queues :=
  (x.openMessageQueue fun errno => errno = .enoent).map fun r => { q with restaurantMQ := r }

end Queues

/-- `pSendRegisterMQMessage`, `pSendAttractionMQMessage` and `pSendRestaurantMQMessage`. -/
def pSendMQMessage (x : CallOutcome) : Except Exn Bool := x.sendMessage fun errno => errno = .ebadf

/-- The `SendMessage` of an `ACK`, which handles no error. -/
def sendAckMessage (x : CallOutcome) : Except Exn Bool := x.sendMessage fun _ => false

/-! ## Reading a reply -/

/-- Whether a `PARK_ENTRY_PERMIT` lets the client in. -/
def parkEntryPermit : Option ClientMQMessage → Except Exn Bool
  | none => .ok false
  | some msg => if msg.mType ≠ .parkEntryPermit then .ok false else
      match msg.content with
      | .parkEntryPermit allowed => .ok allowed
      | _ => .error .badVariantAccess

/-- The leave semaphore of an `ATTRACTION_ENTRY_PERMIT` that lets the client in. -/
def attractionEntryPermit : Option ClientMQMessage → Except Exn (Option ℕ)
  | none => .ok none
  | some msg => if msg.mType ≠ .attractionEntryPermit then .ok none else
      match msg.content with
      | .attractionEntryPermit allowed leaveSemaphoreID =>
        .ok (if allowed then some leaveSemaphoreID else none)
      | _ => .error .badVariantAccess

/-- Whether a message is a bill. -/
def readBill (msg : ClientMQMessage) : Except Exn Bool :=
  if msg.mType ≠ .bill then .ok false else
    match msg.content with
    | .bill _ => .ok true
    | _ => .error .badVariantAccess

/-! ## The state -/

/-- `isOpen` is the flag in the shared memory, `registerSent` what the client has put on the
cashier's queue, the latest first. -/
structure ClientState extends ClientProc where
  pid : Pid
  queues : Queues
  evac : Bool
  isOpen : Bool
  availableAttractions : List ℕ
  registerSent : List RegisterMQMessage
deriving DecidableEq

/-! ## `pVisitRestaurant` -/

/-- The points of `pVisitRestaurant` with those of `pEnterRestaurant` before it and of
`pLeaveRestaurant` after it. -/
inductive RestaurantPoint where
  | testOpen
  | getRestaurantMQ
  | createReply
  | sendEnter
  | receivePermit
  | sendAck
  | removeAll
  | logEnter
  | startWait
  | waiting
  | woken
  | leaveCreate
  | leaveLogFailed
  | leaveGetMQ
  | leaveSend
  | leaveLogUnsent
  | leaveTest
  | leaveReceive
  | leaveLogNoBill
  | leaveSendAck
  | leaveLogPaid
deriving DecidableEq

open Outcome in
/-- The visit changes nothing but the queues. -/
def RestaurantPoint.step (s : ClientState) (x : CallOutcome) :
    RestaurantPoint → Outcome Queues RestaurantPoint Bool Exn
  | .testOpen => (s.queues, if s.isOpen then .next .getRestaurantMQ else .returns false)
  | .getRestaurantMQ => call s.queues (s.queues.pGetRestaurantMQ x) fun q =>
      (q, if q.restaurantMQ then .next .createReply else .returns false)
  | .createReply => call s.queues (s.queues.pCreateReplyMQ x) fun q =>
      (q, if q.clientQueue then .next .sendEnter else .returns false)
  | .sendEnter => through s.queues s.queues.restaurantMQ <| call s.queues (pSendMQMessage x)
      fun r => (s.queues, if r then .next .receivePermit else .returns false)
  | .receivePermit => through s.queues s.queues.clientQueue <|
      call s.queues (x.received.bind attractionEntryPermit) fun permit =>
        (s.queues, if permit.isSome then .next .sendAck else .returns false)
  | .sendAck => through s.queues s.queues.clientQueue <| call s.queues (sendAckMessage x)
      fun r => (s.queues, if r then .next .removeAll else .returns false)
  | .removeAll => (.removed, .next .logEnter)
  | .logEnter => call s.queues x.logged fun _ => (s.queues, .next .startWait)
  | .startWait => (s.queues, .next .waiting)
  | .waiting => (s.queues, .next .woken)
  -- one of three messages
  | .woken => call s.queues x.logged fun _ => (s.queues, .next .leaveCreate)
  | .leaveCreate => call s.queues (s.queues.pCreateReplyMQ x) fun q =>
      (q, .next (if q.clientQueue then .leaveGetMQ else .leaveLogFailed))
  | .leaveLogFailed => call s.queues x.logged fun _ => (s.queues, .next .leaveGetMQ)
  | .leaveGetMQ => call s.queues (s.queues.pGetRestaurantMQ x) fun q =>
      (q, if q.restaurantMQ then .next .leaveSend else .returns true)
  | .leaveSend => through s.queues s.queues.restaurantMQ <| call s.queues (pSendMQMessage x)
      fun r => (s.queues, .next (if r then .leaveTest else .leaveLogUnsent))
  | .leaveLogUnsent => call s.queues x.logged fun _ => (s.queues, .next .leaveTest)
  | .leaveTest => (s.queues,
      if ClientProc.waitsForRestaurantBill s.enteredPark s.queues.clientQueue then
        .next .leaveReceive else .returns true)
  | .leaveReceive => through s.queues s.queues.clientQueue <| call s.queues x.received
      fun
        | none => (s.queues, .next .leaveLogNoBill)
        | some msg => call s.queues (readBill msg) fun r =>
          (s.queues, if r then .next .leaveSendAck else .returns true)
  | .leaveLogNoBill => call s.queues x.logged fun _ => (s.queues, .returns true)
  | .leaveSendAck => through s.queues s.queues.clientQueue <| call s.queues (sendAckMessage x)
      fun _ => (s.queues, .next .leaveLogPaid)
  | .leaveLogPaid => call s.queues x.logged fun _ => (s.queues, .returns true)

/-! ## `pVisitAttraction` -/

/-- The points of `pVisitAttraction` with those of `pEnterAttraction` and `pLeaveAttraction`.
`removeAll` and the points of the ride know the semaphore that `pEnterAttraction` has returned,
`woken` the result of the `Wait`. -/
inductive AttractionPoint where
  | createReply
  | getAttractionMQ
  | sendEnter
  | receivePermit
  | sendAck (semID : ℕ)
  | removeAll (semID : Option ℕ)
  | logEnter (semID : ℕ)
  | startWait (semID : ℕ)
  | waiting (semID : ℕ)
  | woken (result : Bool)
  | leaveGetMQ
  | leaveSend
  | leaveLogUnsent
deriving DecidableEq

open Outcome in
def AttractionPoint.step (s : ClientState) (x : CallOutcome) :
    AttractionPoint → Outcome Queues AttractionPoint Unit Exn
  | .createReply => call s.queues (s.queues.pCreateAttractionReplyMQ x) fun q =>
      (q, if q.clientQueue then .next .getAttractionMQ else .returns ())
  | .getAttractionMQ => call s.queues (s.queues.pGetAttractionMQ x) fun q =>
      (q, .next (if q.attractionMQ then .sendEnter else .removeAll none))
  | .sendEnter => through s.queues s.queues.attractionMQ <| call s.queues (pSendMQMessage x)
      fun r => (s.queues, .next (if r then .receivePermit else .removeAll none))
  | .receivePermit => through s.queues s.queues.clientQueue <|
      call s.queues (x.received.bind attractionEntryPermit) fun
        | some semID => (s.queues, .next (.sendAck semID))
        | none => (s.queues, .next (.removeAll none))
  | .sendAck semID => through s.queues s.queues.clientQueue <| call s.queues (sendAckMessage x)
      fun r => (s.queues, .next (.removeAll (if r then some semID else none)))
  | .removeAll none => (.removed, .returns ())
  | .removeAll (some semID) => (.removed, .next (.logEnter semID))
  | .logEnter semID => call s.queues x.logged fun _ => (s.queues, .next (.startWait semID))
  | .startWait semID => (s.queues, .next (.waiting semID))
  | .waiting _ => (s.queues, .next (.woken x.waited))
  | .woken result => call s.queues x.logged fun _ =>
      (s.queues, if !result && !s.evac then .next .leaveGetMQ else .returns ())
  | .leaveGetMQ => call s.queues (s.queues.pGetAttractionMQ x) fun q =>
      (q, if q.attractionMQ then .next .leaveSend else .returns ())
  | .leaveSend => through s.queues s.queues.attractionMQ <| call s.queues (pSendMQMessage x)
      fun r => (s.queues, if r then .returns () else .next .leaveLogUnsent)
  | .leaveLogUnsent => call s.queues x.logged fun _ => (s.queues, .returns ())

/-! ## `pEnterPark` and `pLeavePark` -/

/-- The points of `pEnterPark` after its test of `m_enteredPark`. -/
inductive EnterPoint where
  | getRegisterMQ
  | sendEnter
  | receivePermit
  | sendAck
deriving DecidableEq

/-- Put a message on the cashier's queue if the send succeeds. -/
def ClientState.sendRegister (s : ClientState) (msg : RegisterMQMessage) (result : Bool) :
    ClientState :=
  { s with registerSent := if result then msg :: s.registerSent else s.registerSent }

open Outcome in
def EnterPoint.step (s : ClientState) (x : CallOutcome) :
    EnterPoint → Outcome ClientState EnterPoint Bool Exn
  | .getRegisterMQ => call s (s.queues.pGetRegisterMQ x) fun q =>
      ({ s with queues := q }, if q.registerMQ then .next .sendEnter else .returns false)
  | .sendEnter => through s s.queues.registerMQ <| call s (pSendMQMessage x) fun r =>
      if r then
        ({ s.sendRegister (s.enterParkMessage s.pid) r with
          queues := { s.queues with registerMQ := false } }, .next .receivePermit)
      else (s, .returns false)
  | .receivePermit => through s s.queues.clientQueue <|
      call s (x.received.bind parkEntryPermit) fun allowed =>
        (s, if allowed then .next .sendAck else .returns false)
  | .sendAck => through s s.queues.clientQueue <| call s (sendAckMessage x) fun r =>
      (s, .returns r)

inductive LeavePoint where
  | testEntered
  | createReply
  | logFailed
  | clearEntered
  | getRegisterMQ
  | sendExit
  | sent (result : Bool)
  | logUnsent
  | receiveBill
  | logNoBill
  | sendAck
  | logPaid
deriving DecidableEq

open Outcome in
def LeavePoint.step (s : ClientState) (x : CallOutcome) :
    LeavePoint → Outcome ClientState LeavePoint Unit Exn
  | .testEntered => (s, if s.enteredPark then
      .next (if s.data.isVip then .clearEntered else .createReply) else .returns ())
  | .createReply => call s (s.queues.pCreateReplyMQ x) fun q =>
      ({ s with queues := q }, .next (if q.clientQueue then .clearEntered else .logFailed))
  | .logFailed => call s x.logged fun _ => (s, .next .clearEntered)
  | .clearEntered => ({ s with enteredPark := false }, .next .getRegisterMQ)
  | .getRegisterMQ => call s (s.queues.pGetRegisterMQ x) fun q =>
      ({ s with queues := q }, if q.registerMQ then .next .sendExit else .returns ())
  | .sendExit => through s s.queues.registerMQ <| call s (pSendMQMessage x) fun r =>
      (s.sendRegister (ClientProc.exitParkMessage s.pid s.visitedRestaurant) r, .next (.sent r))
  | .sent result => ({ s with queues := { s.queues with registerMQ := false } },
      if s.data.isVip && !s.visitedRestaurant then .returns ()
      else .next (if result then .receiveBill else .logUnsent))
  | .logUnsent => call s x.logged fun _ => (s, .returns ())
  | .receiveBill => through s s.queues.clientQueue <| call s x.received
      fun
        | none => (s, .next .logNoBill)
        | some msg => call s (readBill msg) fun r =>
          (s, if r then .next .sendAck else .returns ())
  | .logNoBill => call s x.logged fun _ => (s, .returns ())
  | .sendAck => through s s.queues.clientQueue <| call s (sendAckMessage x) fun _ =>
      (s, .next .logPaid)
  | .logPaid => call s x.logged fun _ => (s, .returns ())

/-! ## `Run` and `Close` -/

/-- Where `Run` calls `pVisitRestaurant`. -/
inductive RestaurantVisit where
  | beforePark
  | inPark
  | afterPark
deriving DecidableEq

/-- Where `pLeavePark` is called: in `pEnterPark`, in `Run`, in `pCloseImpl`. -/
inductive LeaveCall where
  | entering
  | run
  | close
deriving DecidableEq

inductive ClientPoint where
  | initFlags
  | logStart
  | testOpen
  | drawBefore
  | restaurant (visit : RestaurantVisit) (p : RestaurantPoint)
  | removeBefore
  | createReply
  | enterPark
  | enter (p : EnterPoint)
  | removeEntered
  | logEntered
  | loopHead
  | choose
  | attraction (attractionID : ℕ) (p : AttractionPoint)
  | visited (attractionID : ℕ)
  | removeVisited
  | leave (call : LeaveCall) (p : LeavePoint)
  | removeLeft
  | drawAfter
  | removeAfter
  | removeClosed
  | logClosed
  | finished
  | crashed
deriving DecidableEq

/-- The begin of `Close`. -/
abbrev ClientPoint.close : ClientPoint := .leave .close .testEntered

/-- Where an exception is caught: around the creation of a reply queue for the exit, around a
visit in the loop of `Run`, and in `main`, around `Run` and around `Close`. -/
def ClientPoint.raise : ClientPoint → ClientPoint
  | .restaurant visit .leaveCreate => .restaurant visit .leaveLogFailed
  | .leave call .createReply => .leave call .logFailed
  | .restaurant .inPark _ => .visited restaurantIndex
  | .attraction attractionID _ => .visited attractionID
  | .leave .close _ | .removeClosed | .logClosed | .finished => .finished
  | .crashed => .crashed
  | _ => .close

/-- A signal ends the `Wait`, which is not retried. -/
def ClientPoint.interrupted : ClientPoint → ClientPoint
  | .restaurant visit .waiting => .restaurant visit .woken
  | .attraction attractionID (.waiting _) => .attraction attractionID (.woken false)
  | point => point

structure ClientSystem where
  client : ClientState
  point : ClientPoint
deriving DecidableEq

inductive ClientAction where
  | run (x : CallOutcome)
  | closePark
  | sigUsr1 (logged : Except Exn Unit)

namespace ClientSystem

/-- Continue with a called procedure, or after it. -/
def follow {π ρ : Type*} (client : ClientState) (here : ClientPoint) (next : π → ClientPoint)
    (returns : ρ → ClientSystem) : Flow π ρ Exn → ClientSystem
  | .next p => ⟨client, next p⟩
  | .returns r => returns r
  | .throws _ => ⟨client, here.raise⟩
  | .crashes => ⟨client, .crashed⟩

/-- `pVisitRestaurant` has returned. -/
def restaurantReturned (client : ClientState) (r : Bool) : RestaurantVisit → ClientSystem
  | .beforePark => ⟨client, .removeBefore⟩
  | .inPark => ⟨{ client with visitedRestaurant := client.visitedRestaurant || r },
      .visited restaurantIndex⟩
  | .afterPark => ⟨client, .removeAfter⟩

/-- `pLeavePark` has returned. -/
def leaveReturned : LeaveCall → ClientPoint
  | .entering => .enter .getRegisterMQ
  | .run => .removeLeft
  | .close => .removeClosed

def stepRun (s : ClientSystem) (x : CallOutcome) : Option ClientSystem :=
  match s.point with
  | .initFlags => some ⟨{ s.client with
      enteredPark := false, evac := false, visitedRestaurant := false }, .logStart⟩
  | .logStart => match x.logged with
    | .ok () => some { s with point := .testOpen }
    | .error _ => some { s with point := s.point.raise }
  | .testOpen => some { s with point := if s.client.isOpen then .drawBefore else .close }
  | .drawBefore => some { s with
      point := if x.choice then .restaurant .beforePark .testOpen else .removeBefore }
  | .restaurant visit p =>
    let o := p.step s.client x
    let client := { s.client with queues := o.1 }
    some (follow client s.point (.restaurant visit) (restaurantReturned client · visit) o.2)
  | .removeBefore => some ⟨{ s.client with queues := .removed }, .createReply⟩
  | .createReply => match s.client.queues.pCreateReplyMQ x with
    | .ok q => some ⟨{ s.client with queues := q },
        if q.clientQueue then .enterPark else .close⟩
    | .error _ => some { s with point := s.point.raise }
  | .enterPark => some { s with
      point := if s.client.enteredPark then .leave .entering .testEntered
        else .enter .getRegisterMQ }
  | .enter p =>
    let o := p.step s.client x
    some (follow o.1 s.point .enter
      (fun r => ⟨{ o.1 with enteredPark := r }, .removeEntered⟩) o.2)
  | .removeEntered => some ⟨{ s.client with queues := .removed },
      if s.client.enteredPark then .logEntered else .close⟩
  | .logEntered => match x.logged with
    | .ok () => some { s with point := .loopHead }
    | .error _ => some { s with point := s.point.raise }
  | .loopHead => some { s with
      point := if x.choice && s.client.isOpen && 0 < s.client.availableAttractions.length &&
        !s.client.evac then .choose else .leave .run .testEntered }
  | .choose => if x.attractionID ∈ s.client.availableAttractions then
      some { s with
        point := if x.attractionID = restaurantIndex then .restaurant .inPark .testOpen
          else .attraction x.attractionID .createReply }
      else none
  | .attraction attractionID p =>
    let o := p.step s.client x
    let client := { s.client with queues := o.1 }
    some (follow client s.point (.attraction attractionID)
      (fun _ => ⟨client, .visited attractionID⟩) o.2)
  | .visited attractionID =>
    let rest := s.client.availableAttractions.erase attractionID
    some ⟨if x.choice then { s.client with availableAttractions := rest } else s.client,
      .removeVisited⟩
  | .removeVisited => some ⟨{ s.client with queues := .removed }, .loopHead⟩
  | .leave call p =>
    let o := p.step s.client x
    some (follow o.1 s.point (.leave call) (fun _ => ⟨o.1, leaveReturned call⟩) o.2)
  | .removeLeft => some ⟨{ s.client with queues := .removed }, .drawAfter⟩
  | .drawAfter => some { s with
      point := if x.choice then .restaurant .afterPark .testOpen else .removeAfter }
  | .removeAfter => some ⟨{ s.client with queues := .removed }, .close⟩
  | .removeClosed => some ⟨{ s.client with queues := .removed }, .logClosed⟩
  | .logClosed => some { s with point := .finished }
  | .finished | .crashed => none

def step (s : ClientSystem) : ClientAction → Option ClientSystem
  | .run x => s.stepRun x
  | .closePark => some { s with client := { s.client with isOpen := false } }
  | .sigUsr1 logged => if s.point = .finished ∨ s.point = .crashed then none else
      some ⟨{ s.client with evac := true },
        match logged with
        | .ok () => s.point.interrupted
        | .error _ => s.point.raise⟩

def machine : Machine ClientSystem ClientAction := ⟨step⟩

theorem follow_rule {π ρ : Type*} {P : ClientSystem → Prop} {client : ClientState}
    {here : ClientPoint} {next : π → ClientPoint} {returns : ρ → ClientSystem} {flow : Flow π ρ Exn}
    (hnext : ∀ p, flow = .next p → P ⟨client, next p⟩)
    (hreturns : ∀ r, flow = .returns r → P (returns r))
    (hraise : ∀ e, flow = .throws e → P ⟨client, here.raise⟩)
    (hcrash : flow = .crashes → P ⟨client, .crashed⟩) :
    P (follow client here next returns flow) := by
  cases flow with
  | next p => exact hnext p rfl
  | returns r => exact hreturns r rfl
  | throws e => exact hraise e rfl
  | crashes => exact hcrash rfl

/-- What a call satisfies, the client goes on with. -/
theorem follow_satisfies {σ π ρ : Type*} {P : ClientSystem → Prop} {Q : Post σ π ρ}
    {o : Outcome σ π ρ Exn} {client : ClientState} {here : ClientPoint} {next : π → ClientPoint}
    {returns : ρ → ClientSystem} (ho : o.Satisfies Q)
    (hnext : ∀ p, Q.next o.1 p → P ⟨client, next p⟩)
    (hreturns : ∀ r, Q.returns o.1 r → P (returns r))
    (hraise : Q.throws o.1 → P ⟨client, here.raise⟩)
    (hcrash : Q.crashes o.1 → P ⟨client, .crashed⟩) :
    P (follow client here next returns o.2) := by
  rcases o with ⟨s, flow⟩
  apply follow_rule
  · rintro p rfl
    exact hnext p ho
  · rintro r rfl
    exact hreturns r ho
  · rintro e rfl
    exact hraise ho
  · rintro rfl
    exact hcrash ho

/-- The client once its signal handler is installed; a static object starts as zero. -/
def started (pid : Pid) (data : ClientData) (isOpen : Bool) : ClientSystem where
  client :=
    { toClientProc := .init data
      pid := pid
      queues := .removed
      evac := false
      isOpen := isOpen
      availableAttractions := List.range attractionCount
      registerSent := [] }
  point := .initFlags

end ClientSystem
end AmusementPark.Client
