import AmusementPark.Channel.ReplyChannel
import AmusementPark.Client.ClientProc
import AmusementPark.Cashier.CashierProc

/-! # Entering the park

The client's `pEnterPark` against the cashier's `pRegisterClient` over the park
queue. The client is in the park once it has sent its `ACK`, the cashier
registers it once it has received that `ACK`. The two agree exactly as long as
the cashier still waits for the `ACK` when it is sent, and takes it up.
-/
namespace AmusementPark.Channel
open Library Cashier Client

/-- What the cashier does apart from this client: the park closes, `SIGTERM` arrives, it
handles a message or serves a request of somebody else. -/
inductive CashierEvent where
  | closePark
  | sigTerm
  | handle (msg : RegisterMQMessage) (x : ReplyOutcome)
  | serve (message : RegisterMQMessage) (x : ReplyOutcome)

/-- The cashier's side of the entry, with what `pRegisterClient` has read of `isOpen`, and the
result of the client's `pEnterPark`, which is its `m_enteredPark`. -/
structure ParkEntry where
  proc : CashierProc
  isOpen : Bool
  allowed : Bool
  entered : Option Bool

namespace ParkEntry

/-- The cashier after the exchange of this step, if it ends one. -/
def conclude (e : ParkEntry) (pid : Pid) (parkSize : ℕ) (s : ReplyChannel ClientProc)
    (a : ChannelAction ClientProc CashierEvent) : CashierProc :=
  match s.outcome a with
  | none => e.proc
  | some (r, x) => (CashierProc.pRegisterClient e.allowed parkSize
      (ClientProc.enterParkMessage pid r.memory) x e.proc).2

/-- Whether `pRegisterClient` returns before it opens the client's queue. -/
def full (e : ParkEntry) (parkSize : ℕ) (c : ClientProc) : Bool :=
  decide ((parkSize : ℤ) < e.proc.clientCounter + partySize c.data.hasChild) && e.isOpen

/-- The handlers for other clients run only while the cashier is not busy with this one. -/
def elsewhere (e : ParkEntry) (pid : Pid) (parkSize : ℕ) (busy : Bool) :
    CashierEvent → Option ParkEntry
  | .closePark => some { e with isOpen := false }
  | .sigTerm => some { e with proc := e.proc.handleSigTerm e.isOpen }
  | .handle msg x => if busy = false ∧ msg.senderPID ≠ pid then
      some { e with proc := CashierProc.pHandleRegisterMQ msg x e.proc } else none
  | .serve message x => if busy = false ∧ message.senderPID ≠ pid then
      some { e with proc := (CashierProc.pRegisterClient e.isOpen parkSize message x e.proc).2 }
    else none

/-- One call of `pEnterPark`, and the cashier as it follows the channel. -/
def follow (pid : Pid) (parkSize : ℕ) (e : ParkEntry) (s : ReplyChannel ClientProc)
    (a : ChannelAction ClientProc CashierEvent) (_ : ReplyChannel ClientProc) : Option ParkEntry :=
  match a with
  | .create kind => if s.nextQueue = 0 ∧ kind = .enter then some e else none
  | .request | .receive | .close | .workerReceive => some e
  | .remember _ | .requestAlone | .workerSkip _ => none
  | .clientStops _ => some { e with entered := some false }
  | .sendAck => some { e with entered := some true }
  | .workerOpen i => match s.pending[i]? with
    | none => none
    | some r => if e.full parkSize r.memory then none
      else some { e with proc := e.conclude pid parkSize s a, allowed := e.isOpen }
  | .workerSend (.permit allowed _) => if allowed = e.allowed then
      some { e with proc := e.conclude pid parkSize s a } else none
  | .workerSend (.bill _) => none
  | .workerStops _ | .workerFinish _ _ => some { e with proc := e.conclude pid parkSize s a }
  | .elsewhere event => e.elsewhere pid parkSize (decide (s.worker ≠ .idle)) event

/-- Client and cashier agree once `pEnterPark` has returned and the request is done with, in a
cashier that was not reset. -/
def Agreement (pid : Pid) (x : ReplyChannel ClientProc × ParkEntry) : Prop :=
  ∀ entered, x.2.entered = some entered → x.1.worker = .idle → x.1.pending = [] →
    x.2.proc.terminated = false → (entered = true ↔ pid ∈ x.2.proc.clients)

/-- The cashier waits for the `ACK` of the permit it has sent. -/
def awaitsAck (s : ReplyChannel ClientProc) : Bool :=
  match s.worker with
  | .sent _ _ | .blocked _ _ => true
  | .idle | .opened _ _ | .answered _ _ _ => false

/-- An `ACK` lies in the queue of the cashier's exchange. -/
def ackLies (s : ReplyChannel ClientProc) : Bool :=
  match s.worker.exchange with
  | none => false
  | some (g, _) => (s.slot g).any fun msg => decide (msg.mType = .ack)

/-- The client sends its `ACK` while the cashier waits for it, and the cashier neither ends its
exchange in front of the `ACK` nor fails to log it. -/
def AckInTime (x : ReplyChannel ClientProc × ParkEntry)
    (a : ChannelAction ClientProc CashierEvent) : Prop :=
  x.2.proc.terminated = false → match a with
    | .sendAck => awaitsAck x.1 = true
    | .workerStops _ => ackLies x.1 = false
    | .workerFinish logged _ => ∀ msg ∈ x.1.inHand, msg.mType = .ack → logged = .ok ()
    | _ => True

/-- `pEnterPark` and the cashier, over one call of `pEnterPark`. -/
def machine (P : Parties) (parkSize : ℕ) :
    Machine (ReplyChannel ClientProc × ParkEntry) (ChannelAction ClientProc CashierEvent) :=
  (ReplyChannel.machine ClientProc CashierEvent P).couple (follow P.clientPID parkSize)

/-- Only the end of an exchange with an `ACK` that is logged changes the registered clients. -/
theorem conclude_of_no_ack {e : ParkEntry} {pid : Pid} {parkSize : ℕ}
    {s : ReplyChannel ClientProc} {a : ChannelAction ClientProc CashierEvent}
    (ha : ∀ now g r msg, a = .workerFinish (.ok ()) now → s.worker = .answered g r msg →
      msg.mType ≠ .ack) : e.conclude pid parkSize s a = e.proc := by
  unfold conclude
  cases hout : s.outcome a with
  | none => rfl
  | some ended =>
    rcases ended with ⟨r, x⟩
    obtain ⟨-, -, -, -, hhand, -⟩ | ⟨-, hkeep⟩ := CashierProc.pRegisterClient_state e.allowed
      parkSize (ClientProc.enterParkMessage pid r.memory) x e.proc
    · obtain ⟨logged, now, g, msg, hfinish, hw, hack, rfl⟩ :=
        ReplyChannel.outcome_registers hout hhand
      have hlogged := (ReplyOutcome.permitHandshake_eq_true.mp hhand).2.2.2.1
      dsimp only at hlogged
      exact absurd hack (ha now g r msg (hlogged ▸ hfinish) hw)
    · exact hkeep

theorem conclude_of_unanswered {e : ParkEntry} {pid : Pid} {parkSize : ℕ}
    {s : ReplyChannel ClientProc} {a : ChannelAction ClientProc CashierEvent}
    (ha : ∀ g r msg, s.worker = .answered g r msg → msg.mType ≠ .ack) :
    e.conclude pid parkSize s a = e.proc :=
  conclude_of_no_ack fun _ g r msg _ hw => ha g r msg hw

/-- The end of an exchange whose `ACK` is logged registers the client. -/
theorem conclude_of_ack {e : ParkEntry} {pid : Pid} {parkSize : ℕ}
    {s : ReplyChannel ClientProc} {g : ℕ} {r : Request ClientProc} {msg : ClientMQMessage}
    (hw : s.worker = .answered g r msg) (hack : msg.mType = .ack) (now : ℤ)
    (hallowed : e.allowed = true)
    (hroom : e.proc.clientCounter + partySize r.memory.data.hasChild ≤ parkSize) :
    e.conclude pid parkSize s (.workerFinish (.ok ()) now) =
      e.proc.register pid (ClientProc.enterPark r.memory.data) now := by
  unfold conclude
  simp only [ReplyChannel.outcome, hw]
  have hhand : (⟨.ok true, .ok true, .ok (some msg), .ok (), .ok (), now⟩ :
      ReplyOutcome).permitHandshake true = .ok true :=
    ReplyOutcome.permitHandshake_eq_true.mpr ⟨rfl, rfl, rfl, rfl, msg, rfl, hack⟩
  obtain ⟨content, hcontent, -, -, -, hreg⟩ | ⟨hnone, -⟩ := CashierProc.pRegisterClient_state
    e.allowed parkSize (ClientProc.enterParkMessage pid r.memory)
    ⟨.ok true, .ok true, .ok (some msg), .ok (), .ok (), now⟩ e.proc
  · rw [hreg, ← RegisterMessageContent.enterPark.inj hcontent]
    rfl
  · exact absurd ⟨ClientProc.enterPark r.memory.data, rfl, hallowed, hroom, hhand⟩ hnone

/-- No step but `SIGTERM` in a closed park resets the cashier. -/
theorem follow_live {pid : Pid} {parkSize : ℕ} {e e' : ParkEntry} {s t : ReplyChannel ClientProc}
    {a : ChannelAction ClientProc CashierEvent} (hf : follow pid parkSize e s a t = some e')
    (hlive : e'.proc.terminated = false) : e.proc.terminated = false := by
  have hconclude (b : ChannelAction ClientProc CashierEvent) :
      (e.conclude pid parkSize s b).terminated = e.proc.terminated := by
    unfold conclude
    split
    · rfl
    · exact (CashierProc.pRegisterClient_frame _ _ _ _ _).2.2
  cases a with
  | elsewhere event => cases event with
    | closePark =>
      obtain rfl := Option.some.inj hf
      exact hlive
    | sigTerm =>
      obtain rfl := Option.some.inj hf
      rwa [← CashierProc.handleSigTerm_of_live hlive]
    | handle msg x =>
      simp only [follow, elsewhere, Option.ite_none_right_eq_some, Option.some.injEq] at hf
      obtain ⟨⟨-, hother⟩, rfl⟩ := hf
      rwa [(CashierProc.pHandleRegisterMQ_frame msg x e.proc pid hother).2] at hlive
    | serve message x =>
      simp only [follow, elsewhere, Option.ite_none_right_eq_some, Option.some.injEq] at hf
      obtain ⟨-, rfl⟩ := hf
      rwa [(CashierProc.pRegisterClient_frame _ _ _ _ _).2.2] at hlive
  | workerOpen i =>
    simp only [follow] at hf
    split at hf
    · cases hf
    · simp only [Option.ite_none_left_eq_some, Option.some.injEq] at hf
      obtain ⟨-, rfl⟩ := hf
      rwa [hconclude] at hlive
  | workerSend answer => cases answer with
    | permit allowed sem =>
      simp only [follow, Option.ite_none_right_eq_some, Option.some.injEq] at hf
      obtain ⟨-, rfl⟩ := hf
      rwa [hconclude] at hlive
    | bill price => cases hf
  | workerStops | workerFinish =>
    obtain rfl := Option.some.inj hf
    rwa [hconclude] at hlive
  | create kind =>
    simp only [follow, Option.ite_none_right_eq_some, Option.some.injEq] at hf
    exact hf.2 ▸ hlive
  | request | receive | close | workerReceive | clientStops | sendAck =>
    obtain rfl := Option.some.inj hf
    exact hlive
  | remember | requestAlone | workerSkip => cases hf

end ParkEntry
end AmusementPark.Channel
