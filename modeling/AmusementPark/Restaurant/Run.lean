import AmusementPark.Restaurant.RestaurantProc
import AmusementPark.Worker.Mailbox

/-! # The restaurant's main loop

`RestaurantProc::Run` as a machine that interleaves with its clients, with the
closing of the park and with the three signal handlers. The loop is cut between
the calls it makes, so a signal may arrive between any two of them. `SIGUSR1`
and `SIGUSR2` log before they do anything else, and their exception is caught
inside the `try` blocks around the exchanges with a client but leaves `Run` from
everywhere else.
-/
namespace AmusementPark.Restaurant
open Library Worker

/-- Where `Run` stands. From `Wait` up to `ReceiveMessage` the token it took is remembered;
while a round is being filled its handler is a local variable. -/
inductive RunPoint where
  | loopHead
  | waiting (timeout : ℤ)
  | woken (token : Bool)
  | checked (token : Bool)
  | deciding
  | filling (newHandler : AttractionHandler)
  | installing (newHandler : AttractionHandler)
  | starting
  | announcing
  | stopped
deriving DecidableEq

structure RestaurantSystem (C : Type*) where
  proc : RestaurantProc
  isOpen : Bool
  point : RunPoint
  mailbox : Mailbox RestaurantMQMessage C

/-- `registerThrows` and `handleThrows` are signals that set `paused` while `pRegisterClient` or
`pSendBill` exchanges messages with a client, and whose log message throws. -/
inductive RestaurantAction (C : Type*) where
  | mailbox (a : MailboxAction RestaurantMQMessage C)
  | closePark
  | sigUsr1 (logged : Except Exn Unit)
  | sigUsr2 (logged : Except Exn Unit)
  | sigInt
  | check (now : ℤ)
  | wake (token : Bool)
  | finishCheck (now : ℤ)
  | receiveThrows
  | handle (x : ReplyOutcome)
  | handleThrows (paused : Bool) (x : ReplyOutcome)
  | decide
  | register (x : ReplyOutcome)
  | registerThrows (paused : Bool) (caught : Except Exn Unit)
  | install
  | start (now : ℤ)
  | announce (logged : Except Exn Unit)

namespace RestaurantSystem
variable {C : Type*}

/-- The restaurant after `Init`, with some tokens already posted. -/
def init (tokens : ℕ) : RestaurantSystem C := ⟨.init, true, .loopHead, .empty tokens⟩

/-- The loop condition. -/
def continues (s : RestaurantSystem C) : Bool :=
  s.isOpen || s.proc.handler.any fun h => !h.isEmpty

def handlerData (cfg : AttractionConfig) : AttractionHandlerData where
  leaveSemaphore := MainSemaphoreArray.restaurantHandler attractionConfig
  maxClientCount := cfg.maxClientsPerHandler
  attractionDuration := cfg.duration
  isRestaurant := true

/-- Past a log message, which ends the process when it throws. -/
def logging (s : RestaurantSystem C) (logged : Except Exn Unit) (next : RestaurantSystem C) :
    RestaurantSystem C :=
  match logged with
  | .ok () => next
  | .error _ => { s with point := .stopped }

/-- One round of the loop in `pCreateAttractionHandler`: `pRegisterClient` on the head of
`m_enterQueue`, which is erased when the call returns true. -/
def fill (s : RestaurantSystem C) (cfg : AttractionConfig) (newHandler : AttractionHandler)
    (x : ReplyOutcome) : RestaurantSystem C :=
  match s.proc.enterQueue with
  | [] => { s with point := .installing newHandler }
  | message :: rest =>
    let r := RestaurantProc.pRegisterClient s.isOpen cfg message x newHandler
    match r.1 with
    | .error _ => { s with point := .stopped }
    | .ok false => { s with point := .installing r.2 }
    | .ok true => { s with proc := { s.proc with enterQueue := rest }, point := .filling r.2 }

def step [DecidableEq C] (cfg : AttractionConfig) (s : RestaurantSystem C) :
    RestaurantAction C → Option (RestaurantSystem C)
  | .mailbox a => (s.mailbox.step a).map fun m => { s with mailbox := m }
  | .closePark => some { s with isOpen := false }
  | .sigUsr1 logged => some (({ s with proc := { s.proc with paused := true } } :
      RestaurantSystem C).logging logged
        { s with proc := RestaurantProc.closeAttraction { s.proc with paused := true } })
  | .sigUsr2 logged => some (({ s with proc := { s.proc with paused := false } } :
      RestaurantSystem C).logging logged
        { s with proc := { s.proc with paused := false } })
  | .sigInt => some { s with proc := { s.proc with evac := true } }
  | .check now => if s.point = .loopHead then
      some { s with point := if s.continues then .waiting (s.proc.pGetNextTimeout now)
                             else .stopped }
    else none
  | .wake token => match s.point with
    | .waiting timeout => if token then
        -- SemSignal gives up at once on a timeout below -1
        if timeout < -1 then none
        else s.mailbox.take.map fun m => { s with mailbox := m, point := .woken true }
      else some { s with point := .woken false }
    | _ => none
  | .finishCheck now => match s.point with
    | .woken token => some { s with
        proc := if !s.proc.evac && !s.proc.paused && s.proc.handler.any (·.finished now)
          then { s.proc with handler := none } else s.proc
        point := .checked token }
    | _ => none
  | .receiveThrows => match s.point with
    | .checked _ => some { s with point := .stopped }
    | _ => none
  | .handle x => match s.point with
    | .checked _ => match s.mailbox.receive with
      | (none, m) => some { s with mailbox := m, point := .deciding }
      | (some msg, m) => some { s with
          proc := (RestaurantProc.pHandleRestaurantMQ msg x s.proc).1
          mailbox := m
          point := .deciding }
    | _ => none
  -- wherever the exception is caught, the client is removed
  | .handleThrows paused x => match s.point, s.mailbox.receive with
    | .checked _, (some msg, m) =>
      let r := RestaurantProc.pHandleRestaurantMQ msg x s.proc
      if r.2.isSome then
        some { s with proc := { r.1 with paused := paused }, mailbox := m, point := .deciding }
      else none
    | _, _ => none
  | .decide => if s.point = .deciding then
      some { s with point := if s.proc.handler.isNone && !s.proc.paused && !s.proc.evac
        then .filling (.construct (handlerData cfg)) else .loopHead }
    else none
  | .register x => match s.point with
    | .filling newHandler => some (s.fill cfg newHandler x)
    | _ => none
  -- m_handler is not released, and the client is done with
  | .registerThrows paused caught => match s.point, s.proc.enterQueue with
    | .filling _, _ :: rest => some (({ s with proc := { s.proc with paused := paused } } :
        RestaurantSystem C).logging caught
          { s with proc := { s.proc with enterQueue := rest, paused := paused } })
    | _, _ => none
  | .install => match s.point with
    | .installing newHandler => if newHandler.isEmpty then some { s with point := .loopHead }
      else some { s with proc := { s.proc with handler := some newHandler }, point := .starting }
    | _ => none
  | .start now => if s.point = .starting then
      some { s with
        proc := { s.proc with handler := s.proc.handler.map (·.startAttraction now) }
        point := .announcing }
    else none
  | .announce logged => if s.point = .announcing then
      some (s.logging logged { s with point := .loopHead })
    else none

def machine (C : Type*) [DecidableEq C] (cfg : AttractionConfig) :
    Machine (RestaurantSystem C) (RestaurantAction C) := ⟨step cfg⟩

theorem registerThrows_step [DecidableEq C] {cfg : AttractionConfig} {s t : RestaurantSystem C}
    {paused : Bool} {caught : Except Exn Unit}
    (h : step cfg s (.registerThrows paused caught) = some t) :
    ∃ newHandler message rest, s.point = .filling newHandler ∧
      s.proc.enterQueue = message :: rest ∧
      t = ({ s with proc := { s.proc with paused := paused } } : RestaurantSystem C).logging caught
        { s with proc := { s.proc with enterQueue := rest, paused := paused } } := by
  simp only [step] at h
  split at h
  · next newHandler message rest hpoint hqueue =>
    exact ⟨newHandler, message, rest, hpoint, hqueue, (Option.some.inj h).symm⟩
  · cases h

/-- An exit whose bill is cut off by a throwing signal handler is handled like any other. -/
theorem handle_of_handleThrows [DecidableEq C] {cfg : AttractionConfig} {s t : RestaurantSystem C}
    {paused : Bool} {x : ReplyOutcome} (h : step cfg s (.handleThrows paused x) = some t) :
    ∃ token msg m, s.point = .checked token ∧ s.mailbox.receive = (some msg, m) ∧
      msg.mType = .exitRestaurant ∧ ∃ u, step cfg s (.handle x) = some u ∧
      t = { u with proc := { u.proc with paused := paused } } := by
  cases hpoint : s.point with
  | checked token =>
    rcases hreceive : s.mailbox.receive with ⟨_ | msg, m⟩
    · simp [step, hpoint, hreceive] at h
    · simp only [step, hpoint, hreceive, Option.ite_none_right_eq_some, Option.some.injEq] at h
      obtain ⟨hbill, rfl⟩ := h
      exact ⟨token, msg, m, rfl, rfl, RestaurantProc.exit_of_bill hbill, _,
        by simp only [step, hpoint, hreceive]; rfl, rfl⟩
  | _ => simp [step, hpoint] at h

end RestaurantSystem
end AmusementPark.Restaurant
