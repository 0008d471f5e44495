import AmusementPark.Worker.ReplyExchange
import AmusementPark.Worker.AttractionHandler

/-! # The attraction's request handlers

`AttractionProc` runs several rounds at a time, one for each leave semaphore of
the attraction, and keeps the entry requests that wait for the next one.
-/
namespace AmusementPark.Attraction
open Worker

/-- `m_attractionHandlers`, in the order of the semaphore identifiers. -/
abbrev HandlerMap := List (ℕ × Option AttractionHandler)

namespace HandlerMap

/-- The loop of `pRemoveClient`: up to the first handler that holds the client. -/
def removeClient (pid : Pid) : HandlerMap → HandlerMap
  | [] => []
  | (id, none) :: rest => (id, none) :: removeClient pid rest
  | (id, some handler) :: rest =>
    let r := handler.removeClient pid
    if r.1 then (id, some r.2) :: rest else (id, some r.2) :: removeClient pid rest

def set (id : ℕ) (handler : Option AttractionHandler) (handlers : HandlerMap) : HandlerMap :=
  handlers.map fun e => if e.1 = id then (id, handler) else e

def get (id : ℕ) (handlers : HandlerMap) : Option AttractionHandler :=
  (handlers.lookup id).join

/-- The semaphore of the first empty entry. -/
def firstFree (handlers : HandlerMap) : Option ℕ :=
  (handlers.find? fun e => e.2.isNone).map Prod.fst

/-- `pGetNextTimeout` for one handler with the given finish time. -/
def earlier (nextTimeout timeout : ℤ) : ℤ :=
  if timeout = 0 then nextTimeout
  else if nextTimeout = -1 then timeout
  else if timeout < nextTimeout then timeout
  else nextTimeout

/-- The loop of `pGetNextTimeout` over the handlers; `-1` while no finish time is known. -/
def earliestFinish (handlers : HandlerMap) : ℤ :=
  handlers.foldl (fun nextTimeout e => match e.2 with
    | none => nextTimeout
    | some handler => earlier nextTimeout handler.finishTime) (-1)

/-- The finish check of `Run`. -/
def dropFinished (now : ℤ) (handlers : HandlerMap) : HandlerMap :=
  handlers.map fun e => (e.1, e.2.filter fun handler => !handler.finished now)

def clear (handlers : HandlerMap) : HandlerMap := handlers.map fun e => (e.1, none)

end HandlerMap

structure AttractionProc where
  attractionID : ℕ
  handlers : HandlerMap
  enterQueue : List AttractionMQMessage
  paused : Bool

namespace AttractionProc

/-- The state after `pInitImpl` has taken the slot `attractionID`. -/
def init (attractionID : ℕ) (cfg : AttractionConfig) : AttractionProc where
  attractionID := attractionID
  handlers := (List.range cfg.handlerCount).map fun i =>
    (((getFirstHandlerSemaphoreID attractionConfig attractionID + i) % 2 ^ 16).toNat, none)
  enterQueue := []
  paused := false

/-- `pRegisterClient` on a handler that is being filled. -/
def pRegisterClient (isOpen : Bool) (cfg : AttractionConfig) (message : AttractionMQMessage)
    (x : ReplyOutcome) (p : AttractionProc) (handler : AttractionHandler) :
    Except Exn Bool × AttractionHandler :=
  match message.content with
  | .emptyMessage => (x.caught.map fun _ => true, handler)
  | .enterAttraction content =>
    let allowed := isOpen && !p.paused && meetsAttractionCriteria p.attractionID
      content.personData content.childData content.hasChild
    if cfg.maxClientsPerHandler < handler.getClientCount + partySize content.hasChild ∧
        allowed = true then (.ok false, handler)
    else match x.permitHandshake allowed with
      | .error _ => (x.caught.map fun _ => true, handler)
      | .ok false => (.ok true, handler)
      | .ok true => (.ok true, (handler.addClient message.senderPID content.hasChild true).2)

def pRemoveClient (pid : Pid) (p : AttractionProc) : AttractionProc :=
  { p with handlers := p.handlers.removeClient pid }

def pHandleEnterAttraction (message : AttractionMQMessage) (p : AttractionProc) :
    AttractionProc :=
  { p with enterQueue := p.enterQueue ++ [message] }

/-- `pHandleAttractionMQ` once it has taken a message. -/
def pHandleAttractionMQ (clientMsg : AttractionMQMessage) (p : AttractionProc) :
    AttractionProc :=
  match clientMsg.mType with
  | .enterAttraction => pHandleEnterAttraction clientMsg p
  | .exitAttraction => pRemoveClient clientMsg.senderPID p
  | .other _ => p

def pGetNextTimeout (now : ℤ) (p : AttractionProc) : ℤ :=
  let nextTimeout := p.handlers.earliestFinish
  if nextTimeout ≠ -1 then nextTimeout - now else nextTimeout

/-- `CloseAttraction` past its log message. -/
def closeAttraction (p : AttractionProc) : AttractionProc := { p with handlers := p.handlers.clear }

end AttractionProc
end AmusementPark.Attraction
