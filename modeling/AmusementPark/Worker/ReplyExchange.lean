import AmusementPark.Messages

/-! # Handshakes over a client's reply queue

What the calls out of a worker return while it answers one client, and the two
handshakes that cashier, attraction and restaurant run on them: the permit of
an entering client and the bill of a leaving one.
-/
namespace AmusementPark

/-- The exceptions of the modelled code. -/
inductive Exn where
  | runtimeError
  | badVariantAccess
deriving DecidableEq

/-- What the calls out of a worker return while it answers one client: `pCreateReplyMQ`,
`pSendReply` and `ReceiveMessage` on the client's queue, the `pLogMessage` of the path taken,
the `pLogMessage` calls of the `catch` block, and the clock. -/
structure ReplyOutcome where
  opened : Except Exn Bool
  sent : Except Exn Bool
  received : Except Exn (Option ClientMQMessage)
  logged : Except Exn Unit
  caught : Except Exn Unit
  now : ℤ

/-- The permit handshake inside the `try` block of every `pRegisterClient`: open the client's
queue, send the permit, wait for an answer unless the client was refused, log an `ACK`.
The result tells whether the client is to be registered. -/
def ReplyOutcome.permitHandshake (x : ReplyOutcome) (allowed : Bool) : Except Exn Bool :=
  match x.opened with
  | .error e => .error e
  | .ok false => .ok false
  | .ok true => match x.sent with
    | .error e => .error e
    | .ok false => .ok false
    | .ok true => if !allowed then .ok false else match x.received with
      | .error e => .error e
      | .ok none => .ok false
      | .ok (some msg) => if msg.mType = .ack then
          match x.logged with
          | .error e => .error e
          | .ok () => .ok true
        else .ok false

/-- The bill handshake inside the `try` block of `pHandleExitPark` and `pSendBill`. A missing
queue ends it quietly, everything else that goes wrong is thrown. -/
def ReplyOutcome.billHandshake (x : ReplyOutcome) : Except Exn Unit :=
  match x.opened with
  | .error e => .error e
  | .ok false => .ok ()
  | .ok true => match x.sent with
    | .error e => .error e
    | .ok false => .error .runtimeError
    | .ok true => match x.received with
      | .error e => .error e
      | .ok none => .error .runtimeError
      | .ok (some msg) => if msg.mType = .ack then x.logged else .ok ()

/-- The bill has been put on the client's queue. -/
def ReplyOutcome.delivered (x : ReplyOutcome) : Bool :=
  match x.opened, x.sent with
  | .ok true, .ok true => true
  | _, _ => false

/-- An exchange in which no call fails and the client confirms. -/
def ReplyOutcome.faultless (clientPID : Pid) (now : ℤ) : ReplyOutcome where
  opened := .ok true
  sent := .ok true
  received := .ok (some (ackMsg clientPID))
  logged := .ok ()
  caught := .ok ()
  now := now

/-- A handshake that ends in a registration is one of an allowed client that confirmed. -/
theorem ReplyOutcome.permitHandshake_eq_true {x : ReplyOutcome} {allowed : Bool} :
    x.permitHandshake allowed = .ok true ↔ allowed = true ∧ x.opened = .ok true ∧
      x.sent = .ok true ∧ x.logged = .ok () ∧
      ∃ msg, x.received = .ok (some msg) ∧ msg.mType = .ack := by
  rcases x with ⟨opened, sent, received, logged, caught, now⟩
  unfold permitHandshake
  rcases opened with e | _ | _ <;> simp
  rcases sent with e | _ | _ <;> simp
  cases allowed <;> simp
  rcases received with e | _ | msg <;> simp
  by_cases hack : msg.mType = .ack <;> rcases logged with e | u <;> simp [hack]

end AmusementPark
