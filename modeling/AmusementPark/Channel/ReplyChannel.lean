import AmusementPark.Worker.ReplyExchange
import AmusementPark.Library.Machine

/-! # The reply queue of one client

A client and a worker talk over POSIX queues of one slot. The client creates a
new queue for every conversation, sends its request, receives the answer,
confirms it on the same queue and removes the queue. The worker keeps the
requests and answers each of them on whatever queue is linked under the
client's name by then. A message that arrives while a receiver is blocked goes
to that receiver.
-/
namespace AmusementPark.Channel
open Library

/-- A client enters with a permit handshake and leaves with a bill handshake. -/
inductive RequestKind where
  | enter
  | leave
deriving DecidableEq

/-- A request with what the client knew when it sent it. -/
structure Request (κ : Type*) where
  kind : RequestKind
  memory : κ
deriving DecidableEq

inductive WorkerKind where
  | cashier
  | attraction
  | restaurant
deriving DecidableEq

/-- The two processes that share the queue. -/
structure Parties where
  clientPID : Pid
  workerPID : Pid
  distinct : clientPID ≠ workerPID
  worker : WorkerKind

/-- What a worker answers. -/
inductive Answer where
  | permit (allowed : Bool) (leaveSemaphoreID : ℕ)
  | bill (price : ℚ)
deriving DecidableEq

namespace Parties

def permitType (P : Parties) : ClientMessageType :=
  match P.worker with
  | .cashier => .parkEntryPermit
  | .attraction | .restaurant => .attractionEntryPermit

def message (P : Parties) : Answer → ClientMQMessage
  | .permit allowed leaveSemaphoreID => ⟨P.workerPID, P.permitType, match P.worker with
    | .cashier => .parkEntryPermit allowed
    | .attraction | .restaurant => .attractionEntryPermit allowed leaveSemaphoreID⟩
  | .bill price => ⟨P.workerPID, .bill, .bill price⟩

end Parties

def Answer.kind : Answer → RequestKind
  | .permit _ _ => .enter
  | .bill _ => .leave

/-- A worker does not wait for the `ACK` of a client it refuses. -/
def Answer.awaitsAck : Answer → Bool
  | .permit allowed _ => allowed
  | .bill _ => true

/-- The content of a permit that lets the client in. -/
def grants : ClientMessageContent → Bool
  | .parkEntryPermit allowed => allowed
  | .attractionEntryPermit allowed _ => allowed
  | _ => false

/-- The messages that a client confirms: a permit that lets it in, or a bill. -/
def Parties.accepts (P : Parties) (kind : RequestKind) (msg : ClientMQMessage) : Bool :=
  match kind with
  | .enter => decide (msg.mType = P.permitType) && grants msg.content
  | .leave => decide (msg.mType = .bill)

/-- Where the client stands in a conversation over one of its queues. -/
inductive ClientPhase where
  | idle
  | created (queue : ℕ) (kind : RequestKind)
  | requested (queue : ℕ) (kind : RequestKind)
  | blocked (queue : ℕ) (kind : RequestKind)
  | received (queue : ℕ) (kind : RequestKind) (msg : ClientMQMessage)
  | returned (queue : ℕ) (kind : RequestKind) (result : Bool)
deriving DecidableEq

/-- Where the worker stands with one request of the client; idle while it serves others. -/
inductive WorkerPhase (κ : Type*) where
  | idle
  | opened (queue : ℕ) (r : Request κ)
  | sent (queue : ℕ) (r : Request κ)
  | blocked (queue : ℕ) (r : Request κ)
  | answered (queue : ℕ) (r : Request κ) (msg : ClientMQMessage)
deriving DecidableEq

/-- The queue and the kind of the client's conversation. -/
def ClientPhase.conversation : ClientPhase → Option (ℕ × RequestKind)
  | .idle => none
  | .created g kind | .requested g kind | .blocked g kind | .received g kind _
  | .returned g kind _ => some (g, kind)

/-- The queue and the request of the worker's exchange. -/
def WorkerPhase.exchange {κ : Type*} : WorkerPhase κ → Option (ℕ × Request κ)
  | .idle => none
  | .opened g r | .sent g r | .blocked g r | .answered g r _ => some (g, r)

/-- The queues are numbered in the order of their creation; a number not used yet stands for
an empty queue. `pending` are the requests the worker has not opened yet. -/
structure ReplyChannel (κ : Type*) where
  nextQueue : ℕ
  linked : Option ℕ
  slot : ℕ → Option ClientMQMessage
  pending : List (Request κ)
  memory : κ
  client : ClientPhase
  worker : WorkerPhase κ

/-- How a call of the client ends without an `ACK`. -/
inductive ClientStop where
  | requestFails
  | noReplyWanted
  | receiveFails
  | receiveTimeout
  | refused
  | ackFails
  | ackTimeout
deriving DecidableEq

/-- How an exchange of the worker ends before it has a message in hand. -/
inductive WorkerStop where
  | sendFails
  | sendTimeout
  | receiveFails
  | receiveTimeout
deriving DecidableEq

/-- The steps of client and worker. `elsewhere` is anything that does not touch the queue. -/
inductive ChannelAction (κ E : Type*) where
  | remember (memory : κ)
  | create (kind : RequestKind)
  | request
  | requestAlone
  | receive
  | clientStops (why : ClientStop)
  | sendAck
  | close
  | workerOpen (i : ℕ)
  | workerSkip (i : ℕ)
  | workerSend (answer : Answer)
  | workerReceive
  | workerStops (why : WorkerStop)
  | workerFinish (logged : Except Exn Unit) (now : ℤ)
  | elsewhere (e : E)

namespace ReplyChannel
variable {κ E : Type*}

def init (memory : κ) : ReplyChannel κ := ⟨0, none, fun _ => none, [], memory, .idle, .idle⟩

/-- Whether the client's call can end this way, with the queue and the conversation. Only a
blocked receive times out, and only a send to a full slot. -/
def clientStop (P : Parties) (s : ReplyChannel κ) (why : ClientStop) :
    Option (ℕ × RequestKind) :=
  match why, s.client with
  | .requestFails, .created g kind => some (g, kind)
  | .noReplyWanted, .requested g .leave => some (g, .leave)
  | .receiveFails, .requested g kind => some (g, kind)
  | .receiveFails, .blocked g kind => some (g, kind)
  | .receiveTimeout, .blocked g kind => some (g, kind)
  | .refused, .received g kind msg => if P.accepts kind msg then none else some (g, kind)
  | .ackFails, .received g kind msg => if P.accepts kind msg then some (g, kind) else none
  | .ackTimeout, .received g kind msg =>
    if P.accepts kind msg ∧ (s.slot g).isSome = true then some (g, kind) else none
  | _, _ => none

def workerStop (s : ReplyChannel κ) (why : WorkerStop) : Bool :=
  match why, s.worker with
  | .sendFails, .opened _ _ => true
  | .sendTimeout, .opened g _ => (s.slot g).isSome
  | .receiveFails, .sent _ _ => true
  | .receiveFails, .blocked _ _ => true
  | .receiveTimeout, .blocked _ _ => true
  | _, _ => false

/-- `mq_send` by the worker to a queue with a free slot. -/
def sendToClient (s : ReplyChannel κ) (g : ℕ) (msg : ClientMQMessage) : ReplyChannel κ :=
  match s.client with
  | .blocked g' kind => if g' = g then { s with client := .received g kind msg }
    else { s with slot := Function.update s.slot g (some msg) }
  | _ => { s with slot := Function.update s.slot g (some msg) }

/-- `mq_send` by the client to a queue with a free slot. -/
def sendToWorker (s : ReplyChannel κ) (g : ℕ) (msg : ClientMQMessage) : ReplyChannel κ :=
  match s.worker with
  | .blocked g' r => if g' = g then { s with worker := .answered g r msg }
    else { s with slot := Function.update s.slot g (some msg) }
  | _ => { s with slot := Function.update s.slot g (some msg) }

def step (P : Parties) (s : ReplyChannel κ) : ChannelAction κ E → Option (ReplyChannel κ)
  | .remember memory => if s.client = .idle then some { s with memory := memory } else none
  | .create kind => if s.client = .idle then
      some { s with nextQueue := s.nextQueue + 1
                    linked := some s.nextQueue
                    client := .created s.nextQueue kind }
    else none
  | .request => match s.client with
    | .created g kind => some { s with
        pending := s.pending ++ [⟨kind, s.memory⟩]
        client := .requested g kind }
    | _ => none
  -- a leaving client without a queue sends its request and waits for nothing
  | .requestAlone => if s.client = .idle then
      some { s with pending := s.pending ++ [⟨.leave, s.memory⟩] } else none
  | .receive => match s.client with
    | .requested g kind => match s.slot g with
      | some msg => some { s with
          slot := Function.update s.slot g none
          client := .received g kind msg }
      | none => some { s with client := .blocked g kind }
    | _ => none
  | .clientStops why => (s.clientStop P why).map fun e =>
      { s with client := .returned e.1 e.2 false }
  | .sendAck => match s.client with
    | .received g kind msg => if P.accepts kind msg ∧ s.slot g = none then
        some { s.sendToWorker g (ackMsg P.clientPID) with client := .returned g kind true }
      else none
    | _ => none
  | .close => match s.client with
    | .returned _ _ _ => some { s with linked := none, client := .idle }
    | _ => none
  | .workerOpen i => match s.worker, s.pending[i]? with
    | .idle, some r => some { s with
        pending := s.pending.eraseIdx i
        worker := match s.linked with
          | none => .idle
          | some g => .opened g r }
    | _, _ => none
  | .workerSkip i => match s.worker, s.pending[i]? with
    | .idle, some _ => some { s with pending := s.pending.eraseIdx i }
    | _, _ => none
  | .workerSend answer => match s.worker with
    | .opened g r => if answer.kind = r.kind ∧ s.slot g = none then
        some { s.sendToClient g (P.message answer) with
          worker := if answer.awaitsAck then .sent g r else .idle }
      else none
    | _ => none
  | .workerReceive => match s.worker with
    | .sent g r => match s.slot g with
      | some msg => some { s with
          slot := Function.update s.slot g none
          worker := .answered g r msg }
      | none => some { s with worker := .blocked g r }
    | _ => none
  | .workerStops why => if s.workerStop why then some { s with worker := .idle } else none
  | .workerFinish _ _ => match s.worker with
    | .answered _ _ _ => some { s with worker := .idle }
    | _ => none
  | .elsewhere _ => some s

def machine (κ E : Type*) (P : Parties) : Machine (ReplyChannel κ) (ChannelAction κ E) := ⟨step P⟩

/-- The message that the worker has received from the client's queue. -/
def inHand (s : ReplyChannel κ) : Option ClientMQMessage :=
  match s.worker with
  | .answered _ _ msg => some msg
  | _ => none

/-- The request whose exchange ends with this step, and what the calls of the exchange have
returned to the worker. -/
def outcome (s : ReplyChannel κ) : ChannelAction κ E → Option (Request κ × ReplyOutcome)
  | .workerOpen i => match s.linked with
    | none => s.pending[i]?.map (·, ⟨.ok false, .ok false, .ok none, .ok (), .ok (), 0⟩)
    | some _ => none
  | .workerSend answer => match s.worker with
    | .opened _ r => if answer.awaitsAck then none
      else some (r, ⟨.ok true, .ok true, .ok none, .ok (), .ok (), 0⟩)
    | _ => none
  | .workerStops why => match why, s.worker with
    | .sendFails, .opened _ r =>
      some (r, ⟨.ok true, .error .runtimeError, .ok none, .ok (), .ok (), 0⟩)
    | .sendTimeout, .opened _ r => some (r, ⟨.ok true, .ok false, .ok none, .ok (), .ok (), 0⟩)
    | .receiveFails, .sent _ r =>
      some (r, ⟨.ok true, .ok true, .error .runtimeError, .ok (), .ok (), 0⟩)
    | .receiveFails, .blocked _ r =>
      some (r, ⟨.ok true, .ok true, .error .runtimeError, .ok (), .ok (), 0⟩)
    | .receiveTimeout, .blocked _ r =>
      some (r, ⟨.ok true, .ok true, .ok none, .ok (), .ok (), 0⟩)
    | _, _ => none
  | .workerFinish logged now => match s.worker with
    | .answered _ r msg => some (r, ⟨.ok true, .ok true, .ok (some msg), logged, .ok (), now⟩)
    | _ => none
  | _ => none

/-- Only an exchange that ends with a message in hand can register the client. -/
theorem outcome_registers {s : ReplyChannel κ} {a : ChannelAction κ E} {r : Request κ}
    {x : ReplyOutcome} (hout : s.outcome a = some (r, x))
    (hhand : x.permitHandshake true = .ok true) :
    ∃ logged now g msg, a = .workerFinish logged now ∧ s.worker = .answered g r msg ∧
      msg.mType = .ack ∧ x = ⟨.ok true, .ok true, .ok (some msg), logged, .ok (), now⟩ := by
  obtain ⟨-, -, -, -, msg, hreceived, hack⟩ := ReplyOutcome.permitHandshake_eq_true.mp hhand
  cases a with
  | workerFinish logged now =>
    cases hw : s.worker with
    | answered g r' msg' =>
      simp only [outcome, hw, Option.some.injEq, Prod.mk.injEq] at hout
      obtain ⟨rfl, rfl⟩ := hout
      simp only [Except.ok.injEq, Option.some.injEq] at hreceived
      subst hreceived
      exact ⟨logged, now, g, _, rfl, rfl, hack, rfl⟩
    | _ => simp [outcome, hw] at hout
  | workerOpen i =>
    cases hl : s.linked with
    | none =>
      simp only [outcome, hl, Option.map_eq_some_iff, Prod.mk.injEq] at hout
      obtain ⟨-, -, -, rfl⟩ := hout
      cases hreceived
    | some g => simp [outcome, hl] at hout
  | workerSend answer =>
    cases hw : s.worker with
    | opened g r' =>
      simp only [outcome, hw, Option.ite_none_left_eq_some, Option.some.injEq,
        Prod.mk.injEq] at hout
      obtain ⟨-, -, rfl⟩ := hout
      cases hreceived
    | _ => simp [outcome, hw] at hout
  | workerStops why =>
    simp only [outcome] at hout
    split at hout <;> cases hout
    all_goals cases hreceived
  | _ => cases hout

/-- A call of the client ends in the conversation it is about. -/
theorem clientStop_conversation {P : Parties} {s : ReplyChannel κ} {why : ClientStop}
    {g : ℕ} {kind : RequestKind} (h : s.clientStop P why = some (g, kind)) :
    s.client.conversation = some (g, kind) := by
  unfold clientStop at h
  split at h <;> rename_i hc
  case h_1 | h_2 | h_3 | h_4 | h_5 =>
    rw [hc]
    exact h
  case h_6 =>
    rw [hc]
    exact (Option.ite_none_left_eq_some.mp h).2
  case h_7 | h_8 =>
    rw [hc]
    exact (Option.ite_none_right_eq_some.mp h).2
  case h_9 => cases h

/-- After a message has been taken only those of other queues are left. -/
theorem slot_of_taken {slot : ℕ → Option ClientMQMessage} {g g' : ℕ} {msg : ClientMQMessage}
    (h : Function.update slot g none g' = some msg) : g' ≠ g ∧ slot g' = some msg := by
  by_cases hg : g' = g
  · subst hg
    simp at h
  · exact ⟨hg, by rwa [Function.update_of_ne hg] at h⟩

/-- What a step of the machine does, one constructor for each outcome. -/
inductive ChannelStep (P : Parties) (s : ReplyChannel κ) :
    ChannelAction κ E → ReplyChannel κ → Prop where
  | remember (memory : κ) (hc : s.client = .idle) :
      ChannelStep P s (.remember memory) { s with memory := memory }
  | create (kind : RequestKind) (hc : s.client = .idle) :
      ChannelStep P s (.create kind) { s with
        nextQueue := s.nextQueue + 1
        linked := some s.nextQueue
        client := .created s.nextQueue kind }
  | request (g : ℕ) (kind : RequestKind) (hc : s.client = .created g kind) :
      ChannelStep P s .request { s with
        pending := s.pending ++ [⟨kind, s.memory⟩]
        client := .requested g kind }
  | requestAlone (hc : s.client = .idle) :
      ChannelStep P s .requestAlone { s with pending := s.pending ++ [⟨.leave, s.memory⟩] }
  | receiveMsg (g : ℕ) (kind : RequestKind) (msg : ClientMQMessage)
      (hc : s.client = .requested g kind) (hs : s.slot g = some msg) :
      ChannelStep P s .receive { s with
        slot := Function.update s.slot g none
        client := .received g kind msg }
  | receiveBlock (g : ℕ) (kind : RequestKind) (hc : s.client = .requested g kind)
      (hs : s.slot g = none) : ChannelStep P s .receive { s with client := .blocked g kind }
  | clientStops (why : ClientStop) (g : ℕ) (kind : RequestKind)
      (h : s.clientStop P why = some (g, kind)) :
      ChannelStep P s (.clientStops why) { s with client := .returned g kind false }
  | ackTaken (g : ℕ) (kind : RequestKind) (msg : ClientMQMessage) (r : Request κ)
      (hc : s.client = .received g kind msg) (hacc : P.accepts kind msg = true)
      (hs : s.slot g = none) (hw : s.worker = .blocked g r) :
      ChannelStep P s .sendAck { s with
        client := .returned g kind true
        worker := .answered g r (ackMsg P.clientPID) }
  | ackQueued (g : ℕ) (kind : RequestKind) (msg : ClientMQMessage)
      (hc : s.client = .received g kind msg) (hacc : P.accepts kind msg = true)
      (hs : s.slot g = none) (hw : ∀ r, s.worker ≠ .blocked g r) :
      ChannelStep P s .sendAck { s with
        slot := Function.update s.slot g (some (ackMsg P.clientPID))
        client := .returned g kind true }
  | close (g : ℕ) (kind : RequestKind) (result : Bool)
      (hc : s.client = .returned g kind result) :
      ChannelStep P s .close { s with linked := none, client := .idle }
  | openLinked (i : ℕ) (r : Request κ) (g : ℕ) (hw : s.worker = .idle)
      (hr : s.pending[i]? = some r) (hl : s.linked = some g) :
      ChannelStep P s (.workerOpen i) { s with
        pending := s.pending.eraseIdx i
        worker := .opened g r }
  | openMissing (i : ℕ) (r : Request κ) (hw : s.worker = .idle)
      (hr : s.pending[i]? = some r) (hl : s.linked = none) :
      ChannelStep P s (.workerOpen i) { s with
        pending := s.pending.eraseIdx i
        worker := .idle }
  | skip (i : ℕ) (r : Request κ) (hw : s.worker = .idle) (hr : s.pending[i]? = some r) :
      ChannelStep P s (.workerSkip i) { s with pending := s.pending.eraseIdx i }
  | replyTaken (answer : Answer) (g : ℕ) (r : Request κ) (kind : RequestKind)
      (hw : s.worker = .opened g r) (hk : answer.kind = r.kind) (hs : s.slot g = none)
      (hc : s.client = .blocked g kind) :
      ChannelStep P s (.workerSend answer) { s with
        client := .received g kind (P.message answer)
        worker := if answer.awaitsAck then .sent g r else .idle }
  | replyQueued (answer : Answer) (g : ℕ) (r : Request κ) (hw : s.worker = .opened g r)
      (hk : answer.kind = r.kind) (hs : s.slot g = none)
      (hc : ∀ kind, s.client ≠ .blocked g kind) :
      ChannelStep P s (.workerSend answer) { s with
        slot := Function.update s.slot g (some (P.message answer))
        worker := if answer.awaitsAck then .sent g r else .idle }
  | workerReceiveMsg (g : ℕ) (r : Request κ) (msg : ClientMQMessage)
      (hw : s.worker = .sent g r) (hs : s.slot g = some msg) :
      ChannelStep P s .workerReceive { s with
        slot := Function.update s.slot g none
        worker := .answered g r msg }
  | workerReceiveBlock (g : ℕ) (r : Request κ) (hw : s.worker = .sent g r)
      (hs : s.slot g = none) :
      ChannelStep P s .workerReceive { s with worker := .blocked g r }
  | workerStops (why : WorkerStop) (h : s.workerStop why = true) :
      ChannelStep P s (.workerStops why) { s with worker := .idle }
  | workerFinish (logged : Except Exn Unit) (now : ℤ) (g : ℕ) (r : Request κ)
      (msg : ClientMQMessage) (hw : s.worker = .answered g r msg) :
      ChannelStep P s (.workerFinish logged now) { s with worker := .idle }
  | elsewhere (e : E) : ChannelStep P s (.elsewhere e) s

theorem sendToClient_taken {s : ReplyChannel κ} {g : ℕ} {kind : RequestKind}
    (hc : s.client = .blocked g kind) (msg : ClientMQMessage) :
    s.sendToClient g msg = { s with client := .received g kind msg } := by
  simp [sendToClient, hc]

theorem sendToClient_queued {s : ReplyChannel κ} {g : ℕ}
    (hc : ∀ kind, s.client ≠ .blocked g kind) (msg : ClientMQMessage) :
    s.sendToClient g msg = { s with slot := Function.update s.slot g (some msg) } := by
  unfold sendToClient
  split
  · rename_i g' kind hblocked
    rw [if_neg]
    rintro rfl
    exact hc kind hblocked
  · rfl

theorem sendToWorker_taken {s : ReplyChannel κ} {g : ℕ} {r : Request κ}
    (hw : s.worker = .blocked g r) (msg : ClientMQMessage) :
    s.sendToWorker g msg = { s with worker := .answered g r msg } := by
  simp [sendToWorker, hw]

theorem sendToWorker_queued {s : ReplyChannel κ} {g : ℕ}
    (hw : ∀ r, s.worker ≠ .blocked g r) (msg : ClientMQMessage) :
    s.sendToWorker g msg = { s with slot := Function.update s.slot g (some msg) } := by
  unfold sendToWorker
  split
  · rename_i g' r hblocked
    rw [if_neg]
    rintro rfl
    exact hw r hblocked
  · rfl

theorem step_channel {P : Parties} {s t : ReplyChannel κ} {a : ChannelAction κ E}
    (h : step P s a = some t) : ChannelStep P s a t := by
  cases a with
  | remember memory =>
    simp only [step, Option.ite_none_right_eq_some, Option.some.injEq] at h
    exact h.2 ▸ .remember memory h.1
  | create kind =>
    simp only [step, Option.ite_none_right_eq_some, Option.some.injEq] at h
    exact h.2 ▸ .create kind h.1
  | request =>
    cases hc : s.client with
    | created g kind =>
      simp only [step, hc, Option.some.injEq] at h
      exact h ▸ .request g kind hc
    | _ => simp [step, hc] at h
  | requestAlone =>
    simp only [step, Option.ite_none_right_eq_some, Option.some.injEq] at h
    exact h.2 ▸ .requestAlone h.1
  | receive =>
    cases hc : s.client with
    | requested g kind => cases hs : s.slot g with
      | some msg =>
        simp only [step, hc, hs, Option.some.injEq] at h
        exact h ▸ .receiveMsg g kind msg hc hs
      | none =>
        simp only [step, hc, hs, Option.some.injEq] at h
        exact h ▸ .receiveBlock g kind hc hs
    | _ => simp [step, hc] at h
  | clientStops why =>
    obtain ⟨⟨g, kind⟩, he, rfl⟩ := Option.map_eq_some_iff.mp h
    exact .clientStops why g kind he
  | sendAck =>
    cases hc : s.client with
    | received g kind msg =>
      simp only [step, hc, Option.ite_none_right_eq_some, Option.some.injEq] at h
      obtain ⟨⟨hacc, hs⟩, rfl⟩ := h
      by_cases hw : ∃ r, s.worker = .blocked g r
      · obtain ⟨r, hw⟩ := hw
        rw [sendToWorker_taken hw]
        exact .ackTaken g kind msg r hc hacc hs hw
      · rw [sendToWorker_queued (not_exists.mp hw)]
        exact .ackQueued g kind msg hc hacc hs (not_exists.mp hw)
    | _ => simp [step, hc] at h
  | close =>
    cases hc : s.client with
    | returned g kind result =>
      simp only [step, hc, Option.some.injEq] at h
      exact h ▸ .close g kind result hc
    | _ => simp [step, hc] at h
  | workerOpen i =>
    cases hw : s.worker with
    | idle => cases hr : s.pending[i]? with
      | none => simp [step, hw, hr] at h
      | some r => cases hl : s.linked with
        | none =>
          simp only [step, hw, hr, hl, Option.some.injEq] at h
          exact h ▸ hl ▸ .openMissing i r hw hr hl
        | some g =>
          simp only [step, hw, hr, hl, Option.some.injEq] at h
          exact h ▸ hl ▸ .openLinked i r g hw hr hl
    | _ => simp [step, hw] at h
  | workerSkip i =>
    cases hw : s.worker with
    | idle => cases hr : s.pending[i]? with
      | none => simp [step, hw, hr] at h
      | some r =>
        simp only [step, hw, hr, Option.some.injEq] at h
        exact h ▸ hw ▸ .skip i r hw hr
    | _ => simp [step, hw] at h
  | workerSend answer =>
    cases hw : s.worker with
    | opened g r =>
      simp only [step, hw, Option.ite_none_right_eq_some, Option.some.injEq] at h
      obtain ⟨⟨hk, hs⟩, rfl⟩ := h
      by_cases hc : ∃ kind, s.client = .blocked g kind
      · obtain ⟨kind, hc⟩ := hc
        rw [sendToClient_taken hc]
        exact .replyTaken answer g r kind hw hk hs hc
      · rw [sendToClient_queued (not_exists.mp hc)]
        exact .replyQueued answer g r hw hk hs (not_exists.mp hc)
    | _ => simp [step, hw] at h
  | workerReceive =>
    cases hw : s.worker with
    | sent g r => cases hs : s.slot g with
      | some msg =>
        simp only [step, hw, hs, Option.some.injEq] at h
        exact h ▸ .workerReceiveMsg g r msg hw hs
      | none =>
        simp only [step, hw, hs, Option.some.injEq] at h
        exact h ▸ .workerReceiveBlock g r hw hs
    | _ => simp [step, hw] at h
  | workerStops why =>
    simp only [step, Option.ite_none_right_eq_some, Option.some.injEq] at h
    exact h.2 ▸ .workerStops why h.1
  | workerFinish logged now =>
    cases hw : s.worker with
    | answered g r msg =>
      simp only [step, hw, Option.some.injEq] at h
      exact h ▸ .workerFinish logged now g r msg hw
    | _ => simp [step, hw] at h
  | elsewhere e =>
    obtain rfl := Option.some.inj h
    exact .elsewhere e

end ReplyChannel
end AmusementPark.Channel
