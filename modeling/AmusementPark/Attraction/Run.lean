import AmusementPark.Attraction.AttractionProc
import AmusementPark.Worker.Mailbox

/-! # The attraction's main loop

`AttractionProc::Run` as a machine that interleaves with its clients, with the
closing of the park and with `SIGUSR1` and `SIGUSR2`. The loop is cut between
the calls it makes, so a signal may arrive between any two of them. The handlers
log before they do anything else, and their exception is caught inside the `try`
block of `pRegisterClient` but leaves `Run` from everywhere else.
-/
namespace AmusementPark.Attraction
open Library Worker

/-- Where `Run` stands. From `Wait` up to `ReceiveMessage` the token it took is remembered.
`crashed` is the call of a method through a handler that a signal has set to null. -/
inductive RunPoint where
  | loopHead
  | waiting (timeout : ℤ)
  | woken (token : Bool)
  | checked (token : Bool)
  | receiving (token : Bool)
  | deciding
  | creating
  | filling (id : ℕ) (newHandler : AttractionHandler)
  | installing (id : ℕ) (newHandler : AttractionHandler)
  | starting (id : ℕ)
  | announcing (id : ℕ)
  | stopped
  | crashed
deriving DecidableEq

structure AttractionSystem (C : Type*) where
  proc : AttractionProc
  isOpen : Bool
  point : RunPoint
  mailbox : Mailbox AttractionMQMessage C

/-- `registerThrows` is a signal that sets `paused` while `pRegisterClient` exchanges messages
with a client, and whose log message throws; `caught` is how the `catch` block ends. -/
inductive AttractionAction (C : Type*) where
  | mailbox (a : MailboxAction AttractionMQMessage C)
  | closePark
  | sigUsr1 (logged : Except Exn Unit)
  | sigUsr2 (logged : Except Exn Unit)
  | check (now : ℤ)
  | wake (token : Bool)
  | finishCheck (now : ℤ)
  | testPaused
  | receiveThrows
  | handle
  | decide
  | create
  | register (x : ReplyOutcome)
  | registerThrows (paused : Bool) (caught : Except Exn Unit)
  | install
  | start (now : ℤ)
  | announce (logged : Except Exn Unit)

namespace AttractionSystem
variable {C : Type*}

/-- The attraction after `Init`, with some tokens already posted. -/
def init (attractionID : ℕ) (cfg : AttractionConfig) (tokens : ℕ) : AttractionSystem C :=
  ⟨.init attractionID cfg, true, .loopHead, .empty tokens⟩

def handlerData (cfg : AttractionConfig) (id : ℕ) : AttractionHandlerData where
  leaveSemaphore := id
  maxClientCount := cfg.maxClientsPerHandler
  attractionDuration := cfg.duration
  isRestaurant := false

/-- Past a log message, which ends the process when it throws. -/
def logging (s : AttractionSystem C) (logged : Except Exn Unit) (next : AttractionSystem C) :
    AttractionSystem C :=
  match logged with
  | .ok () => next
  | .error _ => { s with point := .stopped }

/-- One round of the inner loop of `pCreateNewHandler`. -/
def fill (s : AttractionSystem C) (cfg : AttractionConfig) (id : ℕ)
    (newHandler : AttractionHandler) (x : ReplyOutcome) : AttractionSystem C :=
  match s.proc.enterQueue with
  | [] => { s with point := .installing id newHandler }
  | message :: rest =>
    let r := AttractionProc.pRegisterClient s.isOpen cfg message x s.proc newHandler
    match r.1 with
    | .error _ => { s with point := .stopped }
    | .ok false => { s with point := .installing id r.2 }
    | .ok true => { s with proc := { s.proc with enterQueue := rest }, point := .filling id r.2 }

def step [DecidableEq C] (cfg : AttractionConfig) (s : AttractionSystem C) :
    AttractionAction C → Option (AttractionSystem C)
  | .mailbox a => (s.mailbox.step a).map fun m => { s with mailbox := m }
  | .closePark => some { s with isOpen := false }
  | .sigUsr1 logged => some (({ s with proc := { s.proc with paused := true } } :
      AttractionSystem C).logging logged
        { s with proc := AttractionProc.closeAttraction { s.proc with paused := true } })
  | .sigUsr2 logged => some (({ s with proc := { s.proc with paused := false } } :
      AttractionSystem C).logging logged
        { s with proc := { s.proc with paused := false } })
  | .check now => if s.point = .loopHead then
      some { s with point := if s.isOpen then .waiting (s.proc.pGetNextTimeout now)
                             else .stopped }
    else none
  | .wake token => match s.point with
    | .waiting timeout => if token then
        -- SemSignal gives up at once on a timeout below -1
        if timeout < -1 then none
        else s.mailbox.take.map fun m => { s with mailbox := m, point := .woken true }
      else some { s with point := .woken false }
    | _ => none
  | .finishCheck now => match s.point with
    | .woken token => some { s with
        proc := { s.proc with handlers := s.proc.handlers.dropFinished now }
        point := .checked token }
    | _ => none
  -- a paused attraction leaves pHandleAttraction at once
  | .testPaused => match s.point with
    | .checked token => some { s with
        point := if s.proc.paused then .loopHead else .receiving token }
    | _ => none
  | .receiveThrows => match s.point with
    | .receiving _ => some { s with point := .stopped }
    | _ => none
  | .handle => match s.point with
    | .receiving _ => match s.mailbox.receive with
      | (none, m) => some { s with mailbox := m, point := .deciding }
      | (some msg, m) => some { s with
          proc := AttractionProc.pHandleAttractionMQ msg s.proc
          mailbox := m
          point := .deciding }
    | _ => none
  | .decide => if s.point = .deciding then
      some { s with point := if cfg.maxClientsPerHandler < s.proc.enterQueue.length ∨
        s.mailbox.queue.length = 0 then .creating else .loopHead }
    else none
  | .create => if s.point = .creating then
      if s.proc.paused then some { s with point := .loopHead }
      else match s.proc.handlers.firstFree with
        | none => some { s with point := .loopHead }
        | some id => some { s with point := .filling id (.construct (handlerData cfg id)) }
    else none
  | .register x => match s.point with
    | .filling id newHandler => some (s.fill cfg id newHandler x)
    | _ => none
  -- no handler is closed, and the client is done with
  | .registerThrows paused caught => match s.point, s.proc.enterQueue with
    | .filling _ _, _ :: rest => some (({ s with proc := { s.proc with paused := paused } } :
        AttractionSystem C).logging caught
          { s with proc := { s.proc with enterQueue := rest, paused := paused } })
    | _, _ => none
  | .install => match s.point with
    | .installing id newHandler => if newHandler.isEmpty then some { s with point := .loopHead }
      else some { s with
        proc := { s.proc with handlers := s.proc.handlers.set id (some newHandler) }
        point := .starting id }
    | _ => none
  | .start now => match s.point with
    | .starting id => match s.proc.handlers.get id with
      | none => some { s with point := .crashed }
      | some handler => some { s with
          proc := { s.proc with
            handlers := s.proc.handlers.set id (some (handler.startAttraction now)) }
          point := .announcing id }
    | _ => none
  | .announce logged => match s.point with
    | .announcing id => match s.proc.handlers.get id with
      | none => some { s with point := .crashed }
      | some _ => some (s.logging logged { s with point := .creating })
    | _ => none

def machine (C : Type*) [DecidableEq C] (cfg : AttractionConfig) :
    Machine (AttractionSystem C) (AttractionAction C) := ⟨step cfg⟩

theorem registerThrows_step [DecidableEq C] {cfg : AttractionConfig} {s t : AttractionSystem C}
    {paused : Bool} {caught : Except Exn Unit}
    (h : step cfg s (.registerThrows paused caught) = some t) :
    ∃ id newHandler message rest, s.point = .filling id newHandler ∧
      s.proc.enterQueue = message :: rest ∧
      t = ({ s with proc := { s.proc with paused := paused } } : AttractionSystem C).logging caught
        { s with proc := { s.proc with enterQueue := rest, paused := paused } } := by
  simp only [step] at h
  split at h
  · next id newHandler message rest hpoint hqueue =>
    exact ⟨id, newHandler, message, rest, hpoint, hqueue, (Option.some.inj h).symm⟩
  · cases h

end AttractionSystem
end AmusementPark.Attraction
