import AmusementPark.Channel.ParkEntry

/-! # Client and cashier agree on the entry

Over one call of `pEnterPark` there is one queue, one request and one message
at a time. The invariant follows the permit and the `ACK` through them, and
gives the exact runs in which the client is in the park if and only if the
cashier has registered it.
-/
namespace AmusementPark.Channel
open Library Cashier Client

namespace ParkEntry

/-- The client is inside its call of `pEnterPark`. -/
def entering (s : ReplyChannel ClientProc) : Bool :=
  match s.client with
  | .idle | .returned _ _ _ => false
  | .created _ _ | .requested _ _ | .blocked _ _ | .received _ _ _ => true

/-- The client has not sent its request yet. -/
def unasked (s : ReplyChannel ClientProc) : Bool :=
  match s.client with
  | .created _ _ => true
  | _ => decide (s.nextQueue = 0)

/-- The requests that are still to be sent, waiting, or being served. -/
def requests (s : ReplyChannel ClientProc) : ℕ :=
  (unasked s).toNat + s.pending.length + s.worker.exchange.toList.length

/-- The permit of the request is not out yet, or the cashier has taken a message back. -/
def early (s : ReplyChannel ClientProc) : Bool :=
  match s.worker with
  | .opened _ _ | .answered _ _ _ => true
  | .idle | .sent _ _ | .blocked _ _ => unasked s || !s.pending.isEmpty

def holdsAnswer (s : ReplyChannel ClientProc) : Bool :=
  match s.client with
  | .received _ _ _ => true
  | .idle | .created _ _ | .requested _ _ | .blocked _ _ | .returned _ _ _ => false

/-- There is only one queue, the first. -/
structure OneQueue (s : ReplyChannel ClientProc) : Prop where
  linked : ∀ g, s.linked = some g → g = 0
  client : ∀ g kind, s.client.conversation = some (g, kind) → g = 0
  worker : ∀ g r, s.worker.exchange = some (g, r) → g = 0

/-- Where the permit and the `ACK` of the entry are, while the cashier is not reset. -/
structure Agreed (P : Parties) (parkSize : ℕ) (s : ReplyChannel ClientProc) (e : ParkEntry) :
    Prop where
  queue : OneQueue s
  active : entering s = true → e.entered = none
  fresh : s.nextQueue = 0 → e.entered = none ∧ s.client = .idle
  single : requests s ≤ 1
  unanswered : early s = true → s.slot 0 = none ∧ holdsAnswer s = false
  oneMessage : (s.slot 0).isSome = true → holdsAnswer s = false
  allowed : awaitsAck s = true ∨ s.inHand.isSome = true → e.allowed = true
  room : ∀ g r, s.worker.exchange = some (g, r) →
    e.proc.clientCounter + partySize r.memory.data.hasChild ≤ parkSize ∨ e.allowed = false
  ackQueued : ∀ msg, s.slot 0 = some msg → msg.mType = .ack → e.entered = some true
  ackInHand : ∀ msg, s.inHand = some msg → msg.mType = .ack → e.entered = some true
  member : P.clientPID ∈ e.proc.clients → e.entered = some true ∧ requests s = 0
  confirmed : e.entered = some true → (awaitsAck s = true ∧ ackLies s = true) ∨
    (∃ msg, s.inHand = some msg ∧ msg.mType = .ack) ∨ P.clientPID ∈ e.proc.clients

theorem permit_ne_ack (P : Parties) (allowed : Bool) (sem : ℕ) :
    (P.message (.permit allowed sem)).mType ≠ .ack := by
  cases hk : P.worker <;> simp [Parties.message, Parties.permitType, hk]

theorem clientStop_entering {P : Parties} {s : ReplyChannel ClientProc} {why : ClientStop}
    {g : ℕ} {kind : RequestKind} (h : s.clientStop P why = some (g, kind)) :
    entering s = true := by
  cases hc : s.client with
  | idle => cases why <;> simp [ReplyChannel.clientStop, hc] at h
  | returned g' kind' result => cases why <;> simp [ReplyChannel.clientStop, hc] at h
  | _ => simp [entering, hc]

/-- A step that keeps the link and the conversations, or ends the exchange. -/
theorem OneQueue.keep {s t : ReplyChannel ClientProc} (hs : OneQueue s)
    (hlinked : t.linked = s.linked) (hclient : t.client.conversation = s.client.conversation)
    (hworker : t.worker = .idle ∨ t.worker.exchange = s.worker.exchange) : OneQueue t where
  linked g h := hs.linked g (hlinked ▸ h)
  client g kind h := hs.client g kind (hclient ▸ h)
  worker g r h := by
    obtain hidle | hsame := hworker
    · rw [hidle] at h
      cases h
    · exact hs.worker g r (hsame ▸ h)

section Steps
variable {P : Parties} {parkSize : ℕ} {s t : ReplyChannel ClientProc} {e e' : ParkEntry}

/-- Inside the call the client has a queue. -/
theorem Agreed.nextQueue_ne (hs : Agreed P parkSize s e) (hentering : entering s = true) :
    s.nextQueue ≠ 0 := by
  intro h
  simp [entering, (hs.fresh h).2] at hentering

/-- While the cashier serves the request, no other one is left. -/
theorem Agreed.served (hs : Agreed P parkSize s e) {g : ℕ} {r : Request ClientProc}
    (hw : s.worker.exchange = some (g, r)) : unasked s = false ∧ s.pending = [] := by
  have hsingle := hs.single
  simp only [requests, hw, Option.toList_some, List.length_singleton] at hsingle
  refine ⟨?_, List.length_eq_zero_iff.mp (by omega)⟩
  cases hunasked : unasked s with
  | false => rfl
  | true => simp [hunasked] at hsingle

/-- While the cashier serves the request, the client is not registered. -/
theorem Agreed.unregistered (hs : Agreed P parkSize s e) {g : ℕ} {r : Request ClientProc}
    (hw : s.worker.exchange = some (g, r)) : P.clientPID ∉ e.proc.clients := by
  intro hmem
  have hzero := (hs.member hmem).2
  simp [requests, hw] at hzero

/-- Once no `ACK` is under way, a client whose call has returned true is registered. -/
theorem Agreed.registered (hs : Agreed P parkSize s e) (hwaits : awaitsAck s = false)
    (hhand : s.inHand = none) (h : e.entered = some true) : P.clientPID ∈ e.proc.clients := by
  obtain ⟨hwaiting, -⟩ | ⟨msg, hmsg, -⟩ | hmem := hs.confirmed h
  · rw [hwaits] at hwaiting
    cases hwaiting
  · rw [hhand] at hmsg
    cases hmsg
  · exact hmem

/-- The client moves on without touching the queue. -/
theorem Agreed.clientMoves (hs : Agreed P parkSize s e) (hqueue : OneQueue t)
    (hslot : t.slot = s.slot) (hworker : t.worker = s.worker) (hanswer : holdsAnswer t = false)
    (hrequests : requests t ≤ requests s) (hearly : early t = true → early s = true)
    (hactive : entering t = true → e'.entered = none)
    (hfresh : t.nextQueue = 0 → e'.entered = none ∧ t.client = .idle)
    (hproc : e'.proc = e.proc) (hallowed : e'.allowed = e.allowed)
    (hentered : e'.entered = some true ↔ e.entered = some true) : Agreed P parkSize t e' := by
  have hawaits : awaitsAck t = awaitsAck s := by rw [awaitsAck, hworker, awaitsAck]
  have hlies : ackLies t = ackLies s := by rw [ackLies, hworker, hslot, ackLies]
  have hhand : t.inHand = s.inHand := by
    rw [ReplyChannel.inHand, hworker, ReplyChannel.inHand]
  refine
    { queue := hqueue
      active := hactive
      fresh := hfresh
      single := hrequests.trans hs.single
      unanswered := fun h => ⟨by rw [hslot]; exact (hs.unanswered (hearly h)).1, hanswer⟩
      oneMessage := fun _ => hanswer
      allowed := ?_
      room := ?_
      ackQueued := ?_
      ackInHand := ?_
      member := ?_
      confirmed := ?_ }
  · rw [hawaits, hhand, hallowed]
    exact hs.allowed
  · rw [hworker, hproc, hallowed]
    exact hs.room
  · rw [hslot, hentered]
    exact hs.ackQueued
  · rw [hhand, hentered]
    exact hs.ackInHand
  · rw [hproc, hentered]
    exact fun h => ⟨(hs.member h).1, Nat.le_zero.mp ((hs.member h).2 ▸ hrequests)⟩
  · rw [hawaits, hlies, hhand, hproc, hentered]
    exact hs.confirmed

/-- The client opens its queue. -/
theorem Agreed.creates (hs : Agreed P parkSize s e) (hzero : s.nextQueue = 0)
    (kind : RequestKind) :
    Agreed P parkSize { s with
      nextQueue := s.nextQueue + 1
      linked := some s.nextQueue
      client := .created s.nextQueue kind } e := by
  obtain ⟨hnone, hidle⟩ := hs.fresh hzero
  refine hs.clientMoves ⟨fun g h => ?_, fun g k h => ?_, hs.queue.worker⟩ rfl rfl rfl ?_ ?_
    (fun _ => hnone) (fun h => ?_) rfl rfl Iff.rfl
  · exact (Option.some.inj h).symm.trans hzero
  · exact (Prod.mk.inj (Option.some.inj h)).1.symm.trans hzero
  · simp [requests, unasked, hidle, hzero]
  · intro _
    cases hw : s.worker <;> simp [early, hw, unasked, hidle, hzero]
  · cases h

/-- The client sends its request. -/
theorem Agreed.asks (hs : Agreed P parkSize s e) {g : ℕ} {kind : RequestKind}
    (hc : s.client = .created g kind) (r : Request ClientProc) :
    Agreed P parkSize { s with
      pending := s.pending ++ [r]
      client := .requested g kind } e := by
  have hentering : entering s = true := by simp [entering, hc]
  have hnext := hs.nextQueue_ne hentering
  refine hs.clientMoves (hs.queue.keep rfl (by rw [hc]; rfl) (.inr rfl)) rfl rfl rfl ?_ ?_
    (fun _ => hs.active hentering) (fun h => absurd h hnext) rfl rfl Iff.rfl
  · simp [requests, unasked, hc, hnext]
  · intro _
    cases hw : s.worker <;> simp [early, hw, unasked, hc]

/-- The client receives the message that is queued for it. -/
theorem Agreed.receives (hs : Agreed P parkSize s e) {g : ℕ} {kind : RequestKind}
    {msg : ClientMQMessage} (hc : s.client = .requested g kind) (hmsg : s.slot g = some msg) :
    Agreed P parkSize { s with
      slot := Function.update s.slot g none
      client := .received g kind msg } e := by
  obtain rfl := hs.queue.client g kind (by rw [hc]; rfl)
  have hentering : entering s = true := by simp [entering, hc]
  have hnone := hs.active hentering
  have hnext := hs.nextQueue_ne hentering
  have hlate : early s = false := by
    by_contra h
    simpa [hmsg] using (hs.unanswered (by simpa using h)).1
  refine
    { queue := hs.queue.keep rfl (by rw [hc]; rfl) (.inr rfl)
      active := fun _ => hnone
      fresh := fun h => absurd h hnext
      single := ?_
      unanswered := fun h => ?_
      oneMessage := fun h => by simp at h
      allowed := hs.allowed
      room := hs.room
      ackQueued := fun m h => by simp at h
      ackInHand := hs.ackInHand
      member := fun h => by simpa [hnone] using (hs.member h).1
      confirmed := fun h => by simp [hnone] at h }
  · simpa [requests, unasked, hc, hnext] using hs.single
  · have hsame : early s = true := by simpa only [early, unasked, hc] using h
    rw [hlate] at hsame
    cases hsame

/-- The client blocks in its receive. -/
theorem Agreed.blocks (hs : Agreed P parkSize s e) {g : ℕ} {kind : RequestKind}
    (hc : s.client = .requested g kind) :
    Agreed P parkSize { s with client := .blocked g kind } e := by
  have hentering : entering s = true := by simp [entering, hc]
  refine hs.clientMoves (hs.queue.keep rfl (by rw [hc]; rfl) (.inr rfl)) rfl rfl rfl ?_ ?_
    (fun _ => hs.active hentering) (fun h => absurd h (hs.nextQueue_ne hentering)) rfl rfl Iff.rfl
  · simp [requests, unasked, hc]
  · simp [early, unasked, hc]

/-- `pEnterPark` returns false. -/
theorem Agreed.clientStops (hs : Agreed P parkSize s e) {why : ClientStop} {g : ℕ}
    {kind : RequestKind} (h : s.clientStop P why = some (g, kind)) :
    Agreed P parkSize { s with client := .returned g kind false }
      { e with entered := some false } := by
  have hentering := clientStop_entering h
  have hnone := hs.active hentering
  have hnext := hs.nextQueue_ne hentering
  refine hs.clientMoves (hs.queue.keep rfl (ReplyChannel.clientStop_conversation h).symm
    (.inr rfl)) rfl rfl rfl ?_ ?_ (fun h => ?_) (fun h => absurd h hnext) rfl rfl ?_
  · simp [requests, unasked, hnext]
  · cases hw : s.worker <;> simp +contextual [early, hw, unasked, hnext]
  · cases h
  · simp [hnone]

/-- The call of `pEnterPark` is over and its queue is removed. -/
theorem Agreed.closes (hs : Agreed P parkSize s e) {g : ℕ} {kind : RequestKind} {result : Bool}
    (hc : s.client = .returned g kind result) :
    Agreed P parkSize { s with linked := none, client := .idle } e := by
  refine hs.clientMoves ⟨fun _ h => (by cases h), fun _ _ h => (by cases h),
    hs.queue.worker⟩ rfl rfl
    rfl ?_ ?_ (fun h => by cases h) (fun h => ⟨(hs.fresh h).1, rfl⟩) rfl rfl Iff.rfl
  · simp [requests, unasked, hc]
  · simp [early, unasked, hc]

/-- The `ACK` reaches the blocked cashier. -/
theorem Agreed.ackTaken (hs : Agreed P parkSize s e) {g : ℕ} {kind : RequestKind}
    {msg : ClientMQMessage} {r : Request ClientProc} (hc : s.client = .received g kind msg)
    (hfree : s.slot g = none) (hw : s.worker = .blocked g r) :
    Agreed P parkSize { s with
        client := .returned g kind true
        worker := .answered g r (ackMsg P.clientPID) }
      { e with entered := some true } := by
  obtain rfl := hs.queue.client g kind (by rw [hc]; rfl)
  have hnext := hs.nextQueue_ne (by simp [entering, hc])
  have hex : s.worker.exchange = some (0, r) := by rw [hw]; rfl
  have hroom := hs.room
  rw [hex] at hroom
  refine
    { queue := hs.queue.keep rfl (by rw [hc]; rfl) (.inr hex.symm)
      active := fun h => by cases h
      fresh := fun h => absurd h hnext
      single := ?single
      unanswered := fun _ => ⟨hfree, rfl⟩
      oneMessage := fun _ => rfl
      allowed := fun _ => hs.allowed (.inl (by simp [awaitsAck, hw]))
      room := hroom
      ackQueued := fun _ _ _ => rfl
      ackInHand := fun _ _ _ => rfl
      member := fun h => absurd h (hs.unregistered hex)
      confirmed := fun _ => .inr (.inl ⟨_, rfl, rfl⟩) }
  simpa [requests, unasked, hc, hw, WorkerPhase.exchange] using hs.single

/-- The `ACK` lies in the queue of a cashier that is about to receive. -/
theorem Agreed.ackStays (hs : Agreed P parkSize s e) {g : ℕ} {kind : RequestKind}
    {msg : ClientMQMessage} (hc : s.client = .received g kind msg) (hwaits : awaitsAck s = true)
    (hw : ∀ r, s.worker ≠ .blocked g r) :
    Agreed P parkSize { s with
        slot := Function.update s.slot g (some (ackMsg P.clientPID))
        client := .returned g kind true }
      { e with entered := some true } := by
  obtain rfl := hs.queue.client g kind (by rw [hc]; rfl)
  have hnext := hs.nextQueue_ne (by simp [entering, hc])
  obtain ⟨r, hsent⟩ : ∃ r, s.worker = .sent 0 r := by
    cases hworker : s.worker with
    | sent g' r => exact ⟨r, by rw [hs.queue.worker g' r (by rw [hworker]; rfl)]⟩
    | blocked g' r =>
      obtain rfl := hs.queue.worker g' r (by rw [hworker]; rfl)
      exact absurd hworker (hw r)
    | _ => simp [awaitsAck, hworker] at hwaits
  have hex : s.worker.exchange = some (0, r) := by rw [hsent]; rfl
  obtain ⟨hunasked, hpending⟩ := hs.served hex
  refine
    { queue := hs.queue.keep rfl (by rw [hc]; rfl) (.inr rfl)
      active := fun h => by cases h
      fresh := fun h => absurd h hnext
      single := ?single
      unanswered := fun h => ?unanswered
      oneMessage := fun _ => rfl
      allowed := hs.allowed
      room := hs.room
      ackQueued := fun _ _ _ => rfl
      ackInHand := fun _ _ _ => rfl
      member := fun h => absurd h (hs.unregistered hex)
      confirmed := fun _ => .inl ⟨hwaits, ?confirmed⟩ }
  case single => simpa [requests, unasked, hc] using hs.single
  case unanswered => simp [early, unasked, hsent, hpending, hnext] at h
  case confirmed => simp [ackLies, hsent, WorkerPhase.exchange, ackMsg]

/-- The cashier opens the queue for the request. -/
theorem Agreed.opens (hs : Agreed P parkSize s e) {i : ℕ} {r : Request ClientProc} {g : ℕ}
    (hw : s.worker = .idle) (hr : s.pending[i]? = some r) (hl : s.linked = some g)
    (hroom : e.proc.clientCounter + partySize r.memory.data.hasChild ≤ parkSize ∨
      e'.allowed = false) (hproc : e'.proc = e.proc) (hentered : e'.entered = e.entered) :
    Agreed P parkSize { s with
      pending := s.pending.eraseIdx i
      worker := .opened g r } e' := by
  obtain ⟨hi, -⟩ := List.getElem?_eq_some_iff.mp hr
  have hsingle := hs.single
  have hearly : early s = true := by
    cases hpending : s.pending with
    | nil => simp [hpending] at hi
    | cons r' pending => simp [early, hw, hpending]
  obtain ⟨hfree, hanswer⟩ := hs.unanswered hearly
  have hnew : P.clientPID ∉ e.proc.clients := by
    intro hmem
    have hzero := (hs.member hmem).2
    simp only [requests] at hzero
    omega
  have hnever : e.entered ≠ some true := fun h =>
    hnew (hs.registered (by simp [awaitsAck, hw]) (by simp [ReplyChannel.inHand, hw]) h)
  refine
    { queue := ⟨hs.queue.linked, hs.queue.client, fun g' r' h => ?queue⟩
      active := fun h => hentered ▸ hs.active h
      fresh := fun h => hentered ▸ hs.fresh h
      single := ?single
      unanswered := fun _ => ⟨hfree, hanswer⟩
      oneMessage := fun _ => hanswer
      allowed := fun h => by cases h <;> contradiction
      room := fun g' r' h => ?room
      ackQueued := hentered ▸ hs.ackQueued
      ackInHand := fun _ h => by cases h
      member := fun h => absurd (hproc ▸ h) hnew
      confirmed := fun h => absurd (hentered ▸ h) hnever }
  case queue =>
    obtain ⟨rfl, -⟩ := Prod.mk.inj (Option.some.inj h)
    exact hs.queue.linked g hl
  case single =>
    simp only [requests, hw, WorkerPhase.exchange, Option.toList_none, List.length_nil,
      Option.toList_some, List.length_singleton, List.length_eraseIdx, hi, if_true] at hsingle ⊢
    change (unasked s).toNat + (s.pending.length - 1) + 1 ≤ 1
    omega
  case room =>
    obtain ⟨-, rfl⟩ := Prod.mk.inj (Option.some.inj h)
    rw [hproc]
    exact hroom

/-- The cashier is done with its exchange or with a request it cannot answer. -/
theorem Agreed.idles (hs : Agreed P parkSize s e) {pending : List (Request ClientProc)}
    (hfewer : pending.length ≤ s.pending.length)
    (hearly : early { s with pending := pending, worker := .idle } = true → early s = true)
    (hconfirmed : e.entered = some true → P.clientPID ∈ e.proc.clients)
    (hproc : e'.proc = e.proc) (hentered : e'.entered = e.entered) :
    Agreed P parkSize { s with pending := pending, worker := .idle } e' := by
  have hfew : requests { s with pending := pending, worker := .idle } ≤ requests s := by
    simp only [requests, WorkerPhase.exchange, Option.toList_none, List.length_nil]
    change (unasked s).toNat + pending.length + 0 ≤ _
    omega
  exact
    { queue := hs.queue.keep rfl rfl (.inl rfl)
      active := fun h => hentered ▸ hs.active h
      fresh := fun h => hentered ▸ hs.fresh h
      single := hfew.trans hs.single
      unanswered := fun h => hs.unanswered (hearly h)
      oneMessage := hs.oneMessage
      allowed := fun h => by cases h <;> contradiction
      room := fun _ _ h => by cases h
      ackQueued := hentered ▸ hs.ackQueued
      ackInHand := fun _ h => by cases h
      member := fun h => by
        obtain ⟨hreturned, hzero⟩ := hs.member (hproc ▸ h)
        exact ⟨hentered ▸ hreturned, Nat.le_zero.mp (hzero ▸ hfew)⟩
      confirmed := fun h => .inr (.inr (hproc ▸ hconfirmed (hentered ▸ h))) }

/-- The cashier's permit goes to the blocked client or into the queue. -/
theorem Agreed.answers (hs : Agreed P parkSize s e) {g : ℕ} {r : Request ClientProc}
    (hw : s.worker = .opened g r) (hqueue : OneQueue t)
    (hworker : t.worker = if e.allowed then .sent g r else .idle)
    (hnext : t.nextQueue = s.nextQueue) (hpending : t.pending = s.pending)
    (hentering : entering t = true → entering s = true) (hunasked : unasked t = unasked s)
    (honeMessage : (t.slot 0).isSome = true → holdsAnswer t = false)
    (hnoAck : ∀ msg, t.slot 0 = some msg → msg.mType = .ack → e.entered = some true) :
    Agreed P parkSize t e := by
  have hex : s.worker.exchange = some (g, r) := by rw [hw]; rfl
  obtain ⟨hasked, hserved⟩ := hs.served hex
  have hnew := hs.unregistered hex
  have hnever : e.entered ≠ some true := fun h =>
    hnew (hs.registered (by simp [awaitsAck, hw]) (by simp [ReplyChannel.inHand, hw]) h)
  refine
    { queue := hqueue
      active := fun h => hs.active (hentering h)
      fresh := fun h => ?fresh
      single := ?single
      unanswered := fun h => ?unanswered
      oneMessage := honeMessage
      allowed := fun h => ?allowed
      room := fun g' r' h => ?room
      ackQueued := hnoAck
      ackInHand := fun m h => ?ackInHand
      member := fun h => absurd h hnew
      confirmed := fun h => absurd h hnever }
  case fresh =>
    have hzero : s.nextQueue = 0 := hnext ▸ h
    simp [unasked, (hs.fresh hzero).2, hzero] at hasked
  case single =>
    cases hallowed : e.allowed <;>
      simp [requests, hunasked, hasked, hpending, hserved, hworker, hallowed,
        WorkerPhase.exchange]
  case unanswered =>
    cases hallowed : e.allowed <;>
      simp [early, hunasked, hasked, hpending, hserved, hworker, hallowed] at h
  case allowed =>
    by_contra hrefused
    simp [awaitsAck, ReplyChannel.inHand, hworker, hrefused] at h
  case room =>
    refine hs.room g' r' ?_
    cases hallowed : e.allowed with
    | false => simp [hworker, hallowed, WorkerPhase.exchange] at h
    | true =>
      rw [hex]
      simpa [hworker, hallowed, WorkerPhase.exchange] using h
  case ackInHand =>
    cases hallowed : e.allowed <;> simp [ReplyChannel.inHand, hworker, hallowed] at h

/-- The permit goes to the blocked client. -/
theorem Agreed.replyTaken (hs : Agreed P parkSize s e) {g : ℕ} {r : Request ClientProc}
    {kind : RequestKind} (hw : s.worker = .opened g r) (hfree : s.slot g = none)
    (hc : s.client = .blocked g kind) (sem : ℕ) :
    Agreed P parkSize { s with
      client := .received g kind (P.message (.permit e.allowed sem))
      worker := if (Answer.permit e.allowed sem).awaitsAck then .sent g r else .idle } e := by
  obtain rfl := hs.queue.worker g r (by rw [hw]; rfl)
  refine hs.answers hw (hs.queue.keep rfl (by rw [hc]; rfl) ?_) rfl rfl rfl
    (fun _ => by simp [entering, hc]) (by simp [unasked, hc]) (fun h => by simp [hfree] at h)
    hs.ackQueued
  cases e.allowed with
  | false => exact .inl rfl
  | true => exact .inr (by rw [hw]; rfl)

/-- The permit stays in the queue. -/
theorem Agreed.replyStays (hs : Agreed P parkSize s e) {g : ℕ} {r : Request ClientProc}
    (hw : s.worker = .opened g r) (sem : ℕ) :
    Agreed P parkSize { s with
      slot := Function.update s.slot g (some (P.message (.permit e.allowed sem)))
      worker := if (Answer.permit e.allowed sem).awaitsAck then .sent g r else .idle } e := by
  obtain rfl := hs.queue.worker g r (by rw [hw]; rfl)
  refine hs.answers hw (hs.queue.keep rfl rfl ?_) rfl rfl rfl (fun h => h) rfl
    (fun _ => (hs.unanswered (by simp [early, hw])).2) (fun msg hmsg hack => ?_)
  · cases e.allowed with
    | false => exact .inl rfl
    | true => exact .inr (by rw [hw]; rfl)
  · simp only [Function.update_self, Option.some.injEq] at hmsg
    exact absurd (hmsg ▸ hack) (permit_ne_ack P _ _)

/-- The cashier's receive finds a message. -/
theorem Agreed.workerReceives (hs : Agreed P parkSize s e) {g : ℕ} {r : Request ClientProc}
    {msg : ClientMQMessage} (hw : s.worker = .sent g r) (hmsg : s.slot g = some msg) :
    Agreed P parkSize { s with
      slot := Function.update s.slot g none
      worker := .answered g r msg } e := by
  obtain rfl := hs.queue.worker g r (by rw [hw]; rfl)
  have hex : s.worker.exchange = some (0, r) := by rw [hw]; rfl
  have hroom := hs.room
  rw [hex] at hroom
  refine
    { queue := hs.queue.keep rfl rfl (.inr hex.symm)
      active := hs.active
      fresh := hs.fresh
      single := ?single
      unanswered := fun _ => ⟨by simp, hs.oneMessage (by simp [hmsg])⟩
      oneMessage := fun h => by simp at h
      allowed := fun _ => hs.allowed (.inl (by simp [awaitsAck, hw]))
      room := hroom
      ackQueued := fun m h => by simp at h
      ackInHand := fun m h hack => ?ackInHand
      member := fun h => absurd h (hs.unregistered hex)
      confirmed := fun h => .inr (.inl ⟨msg, rfl, ?confirmed⟩) }
  case single => simpa [requests, unasked, hw, WorkerPhase.exchange] using hs.single
  case ackInHand =>
    obtain rfl := Option.some.inj h
    exact hs.ackQueued _ hmsg hack
  case confirmed =>
    obtain ⟨-, hlies⟩ | ⟨m, hhand, -⟩ | hmem := hs.confirmed h
    · simpa [ackLies, hex, hmsg] using hlies
    · simp [ReplyChannel.inHand, hw] at hhand
    · exact absurd hmem (hs.unregistered hex)

/-- The cashier's receive blocks. -/
theorem Agreed.workerBlocks (hs : Agreed P parkSize s e) {g : ℕ} {r : Request ClientProc}
    (hw : s.worker = .sent g r) (hfree : s.slot g = none) :
    Agreed P parkSize { s with worker := .blocked g r } e := by
  have hex : s.worker.exchange = some (g, r) := by rw [hw]; rfl
  have hroom := hs.room
  rw [hex] at hroom
  refine
    { queue := hs.queue.keep rfl rfl (.inr hex.symm)
      active := hs.active
      fresh := hs.fresh
      single := ?single
      unanswered := fun h => hs.unanswered ?unanswered
      oneMessage := hs.oneMessage
      allowed := fun _ => hs.allowed (.inl (by simp [awaitsAck, hw]))
      room := hroom
      ackQueued := hs.ackQueued
      ackInHand := fun _ h => by cases h
      member := fun h => absurd h (hs.unregistered hex)
      confirmed := fun h => ?confirmed }
  case single => simpa [requests, unasked, hw, WorkerPhase.exchange] using hs.single
  case unanswered => simpa [early, unasked, hw] using h
  case confirmed =>
    obtain ⟨-, hlies⟩ | ⟨m, hhand, -⟩ | hmem := hs.confirmed h
    · simp [ackLies, hex, hfree] at hlies
    · simp [ReplyChannel.inHand, hw] at hhand
    · exact absurd hmem (hs.unregistered hex)

/-- The cashier registers the client whose `ACK` it has in hand. -/
theorem Agreed.registers (hs : Agreed P parkSize s e) {g : ℕ} {r : Request ClientProc}
    {msg : ClientMQMessage} (hw : s.worker = .answered g r msg) (hack : msg.mType = .ack)
    (now : ℤ) : Agreed P parkSize { s with worker := .idle }
      { e with proc := e.proc.register P.clientPID (ClientProc.enterPark r.memory.data) now } := by
  have hentered := hs.ackInHand msg (by simp [ReplyChannel.inHand, hw]) hack
  have hex : s.worker.exchange = some (g, r) := by rw [hw]; rfl
  obtain ⟨hunasked, hpending⟩ := hs.served hex
  have hnone : requests { s with worker := .idle } = 0 := by
    simp only [requests, WorkerPhase.exchange, Option.toList_none, List.length_nil, hpending]
    change (unasked s).toNat + 0 + 0 = 0
    rw [hunasked]
    rfl
  refine
    { queue := hs.queue.keep rfl rfl (.inl rfl)
      active := hs.active
      fresh := hs.fresh
      single := hnone ▸ Nat.zero_le 1
      unanswered := fun h => ?unanswered
      oneMessage := hs.oneMessage
      allowed := fun h => by cases h <;> contradiction
      room := fun _ _ h => by cases h
      ackQueued := hs.ackQueued
      ackInHand := fun _ h => by cases h
      member := fun _ => ⟨hentered, hnone⟩
      confirmed := fun _ => .inr (.inr ?confirmed) }
  case unanswered => exact hs.unanswered (by simp [early, hw])
  case confirmed => simp [CashierProc.register]

/-- The cashier serves somebody else. -/
theorem Agreed.elsewhere (hs : Agreed P parkSize s e) (hidle : s.worker = .idle)
    (hlookup : e'.proc.clients.lookup P.clientPID = e.proc.clients.lookup P.clientPID)
    (hallowed : e'.allowed = e.allowed) (hentered : e'.entered = e.entered) :
    Agreed P parkSize s e' := by
  have hmem : P.clientPID ∈ e'.proc.clients ↔ P.clientPID ∈ e.proc.clients := by
    rw [← AList.lookup_isSome, hlookup, AList.lookup_isSome]
  exact
    { queue := hs.queue
      active := hentered ▸ hs.active
      fresh := hentered ▸ hs.fresh
      single := hs.single
      unanswered := hs.unanswered
      oneMessage := hs.oneMessage
      allowed := hallowed ▸ hs.allowed
      room := fun g r h => by
        rw [hidle] at h
        cases h
      ackQueued := hentered ▸ hs.ackQueued
      ackInHand := hentered ▸ hs.ackInHand
      member := fun h => hentered ▸ hs.member (hmem.mp h)
      confirmed := fun h => (hs.confirmed (hentered ▸ h)).imp_right (Or.imp_right hmem.mpr) }

end Steps

/-- The exchange ends without an `ACK` that the cashier could have taken up. -/
theorem Agreed.ends {P : Parties} {parkSize : ℕ} {s : ReplyChannel ClientProc} {e : ParkEntry}
    (hs : Agreed P parkSize s e) {g : ℕ} {r : Request ClientProc}
    (hw : s.worker.exchange = some (g, r)) (hlies : awaitsAck s = true → ackLies s = false)
    (hhand : ∀ msg, s.inHand = some msg → msg.mType ≠ .ack) :
    Agreed P parkSize { s with worker := .idle } e := by
  obtain ⟨hunasked, hpending⟩ := hs.served hw
  refine hs.idles le_rfl (fun h => ?_) (fun h => ?_) rfl rfl
  · have hlate : (unasked s || !s.pending.isEmpty) = true := h
    simp [hunasked, hpending] at hlate
  · obtain ⟨hwaits, hack⟩ | ⟨msg, hmsg, hack⟩ | hmem := hs.confirmed h
    · rw [hlies hwaits] at hack
      cases hack
    · exact absurd hack (hhand msg hmsg)
    · exact hmem

theorem workerStop_exchange {s : ReplyChannel ClientProc} {why : WorkerStop}
    (h : s.workerStop why = true) :
    s.inHand = none ∧ ∃ g r, s.worker.exchange = some (g, r) := by
  cases hw : s.worker with
  | idle => cases why <;> simp [ReplyChannel.workerStop, hw] at h
  | answered g r msg => cases why <;> simp [ReplyChannel.workerStop, hw] at h
  | opened g r | sent g r | blocked g r =>
    exact ⟨by simp [ReplyChannel.inHand, hw], g, r, rfl⟩

theorem Agreed.step {P : Parties} {parkSize : ℕ} {s t : ReplyChannel ClientProc}
    {e e' : ParkEntry} {a : ChannelAction ClientProc CashierEvent} (hs : Agreed P parkSize s e)
    (ha : AckInTime (s, e) a) (hstep : ReplyChannel.ChannelStep P s a t)
    (hf : follow P.clientPID parkSize e s a t = some e')
    (hlive : e'.proc.terminated = false) : Agreed P parkSize t e' := by
  have hintime := ha (follow_live hf hlive)
  cases hstep with
  | remember | requestAlone | skip => cases hf
  | create kind hc =>
    simp only [follow, Option.ite_none_right_eq_some, Option.some.injEq] at hf
    obtain ⟨⟨hzero, -⟩, rfl⟩ := hf
    exact hs.creates hzero kind
  | request g kind hc =>
    obtain rfl := Option.some.inj hf
    exact hs.asks hc _
  | receiveMsg g kind msg hc hmsg =>
    obtain rfl := Option.some.inj hf
    exact hs.receives hc hmsg
  | receiveBlock g kind hc hfree =>
    obtain rfl := Option.some.inj hf
    exact hs.blocks hc
  | clientStops why g kind h =>
    obtain rfl := Option.some.inj hf
    exact hs.clientStops h
  | ackTaken g kind msg r hc hacc hfree hw =>
    obtain rfl := Option.some.inj hf
    exact hs.ackTaken hc hfree hw
  | ackQueued g kind msg hc hacc hfree hw =>
    obtain rfl := Option.some.inj hf
    exact hs.ackStays hc hintime hw
  | close g kind result hc =>
    obtain rfl := Option.some.inj hf
    exact hs.closes hc
  | openLinked i r g hw hr hl =>
    simp only [follow, hr, Option.ite_none_left_eq_some, Option.some.injEq] at hf
    obtain ⟨hroom, rfl⟩ := hf
    refine hs.opens hw hr hl ?_ (conclude_of_unanswered (by simp [hw])) rfl
    simpa only [full, Bool.and_eq_true, decide_eq_true_eq, not_and_or, not_lt,
      Bool.not_eq_true] using hroom
  | openMissing i r hw hr hl =>
    simp only [follow, hr, Option.ite_none_left_eq_some, Option.some.injEq] at hf
    obtain ⟨-, rfl⟩ := hf
    refine hs.idles (List.length_eraseIdx_le _ _) (fun _ => ?_)
      (hs.registered (by simp [awaitsAck, hw]) (by simp [ReplyChannel.inHand, hw]))
      (conclude_of_unanswered (by simp [hw])) rfl
    cases hpending : s.pending with
    | nil => simp [hpending] at hr
    | cons r' pending => simp [early, hw, hpending]
  | replyTaken answer g r kind hw hk hfree hc => cases answer with
    | bill price => cases hf
    | permit allowed sem =>
      simp only [follow, Option.ite_none_right_eq_some, Option.some.injEq] at hf
      obtain ⟨rfl, rfl⟩ := hf
      rw [conclude_of_unanswered (by simp [hw])]
      exact hs.replyTaken hw hfree hc sem
  | replyQueued answer g r hw hk hfree hc => cases answer with
    | bill price => cases hf
    | permit allowed sem =>
      simp only [follow, Option.ite_none_right_eq_some, Option.some.injEq] at hf
      obtain ⟨rfl, rfl⟩ := hf
      rw [conclude_of_unanswered (by simp [hw])]
      exact hs.replyStays hw sem
  | workerReceiveMsg g r msg hw hmsg =>
    obtain rfl := Option.some.inj hf
    exact hs.workerReceives hw hmsg
  | workerReceiveBlock g r hw hfree =>
    obtain rfl := Option.some.inj hf
    exact hs.workerBlocks hw hfree
  | workerStops why h =>
    obtain rfl := Option.some.inj hf
    obtain ⟨hhand, g, r, hw⟩ := workerStop_exchange h
    rw [conclude_of_unanswered fun g' r' msg hw' => by simp [ReplyChannel.inHand, hw'] at hhand]
    exact hs.ends hw (fun _ => hintime) fun msg hmsg => by simp [hhand] at hmsg
  | workerFinish logged now g r msg hw =>
    obtain rfl := Option.some.inj hf
    have hhand : s.inHand = some msg := by simp [ReplyChannel.inHand, hw]
    by_cases hack : msg.mType = .ack
    · obtain rfl := hintime msg hhand hack
      have hallowed := hs.allowed (.inr (by simp [hhand]))
      have hroom := (hs.room g r (by rw [hw]; rfl)).resolve_right (by simp [hallowed])
      rw [conclude_of_ack hw hack now hallowed hroom]
      exact hs.registers hw hack now
    · have hno (m : ClientMQMessage) (hm : s.inHand = some m) : m.mType ≠ .ack := by
        rw [hhand, Option.some.injEq] at hm
        exact hm ▸ hack
      rw [conclude_of_unanswered fun g' r' m hw' => hno m (by simp [ReplyChannel.inHand, hw'])]
      have hex : s.worker.exchange = some (g, r) := by rw [hw]; rfl
      exact hs.ends hex (fun h => by simp [awaitsAck, hw] at h) hno
  | elsewhere event => cases event with
    | closePark =>
      obtain rfl := Option.some.inj hf
      exact { hs with }
    | sigTerm =>
      obtain rfl := Option.some.inj hf
      rw [CashierProc.handleSigTerm_of_live hlive]
      exact { hs with }
    | handle msg x =>
      simp only [follow, ParkEntry.elsewhere, Option.ite_none_right_eq_some, Option.some.injEq,
        decide_eq_false_iff_not, not_not] at hf
      obtain ⟨⟨hidle, hother⟩, rfl⟩ := hf
      exact hs.elsewhere hidle
        (CashierProc.pHandleRegisterMQ_frame msg x e.proc P.clientPID hother).1 rfl rfl
    | serve message x =>
      simp only [follow, ParkEntry.elsewhere, Option.ite_none_right_eq_some, Option.some.injEq,
        decide_eq_false_iff_not, not_not] at hf
      obtain ⟨⟨hidle, hother⟩, rfl⟩ := hf
      exact hs.elsewhere hidle
        (CashierProc.pRegisterClient_lookup_of_ne _ _ message x e.proc P.clientPID hother) rfl rfl

theorem Agreed.agreement {P : Parties} {parkSize : ℕ} {s : ReplyChannel ClientProc}
    {e : ParkEntry} (hs : Agreed P parkSize s e) (hidle : s.worker = .idle) {entered : Bool}
    (hentered : e.entered = some entered) :
    entered = true ↔ P.clientPID ∈ e.proc.clients := by
  constructor
  · rintro rfl
    exact hs.registered (by simp [awaitsAck, hidle]) (by simp [ReplyChannel.inHand, hidle]) hentered
  · intro hmem
    exact Option.some.inj (hentered.symm.trans (hs.member hmem).1)

/-- An `ACK` that is sent too late, left in the queue or not logged enters the client alone. -/
theorem agreement_broken {P : Parties} {parkSize : ℕ} {x y : ReplyChannel ClientProc × ParkEntry}
    {a : ChannelAction ClientProc CashierEvent}
    (hx : x.2.proc.terminated = false → Agreed P parkSize x.1 x.2) (ha : ¬ AckInTime x a)
    (h : (machine P parkSize).step x a = some y) : ¬ Agreement P.clientPID y := by
  obtain ⟨hstep, hf⟩ := Machine.couple_step.mp h
  have hchannel := ReplyChannel.step_channel hstep
  rcases x with ⟨s, e⟩
  rcases y with ⟨t, e'⟩
  dsimp only at hstep hf hchannel
  obtain ⟨hlive, hbad⟩ := Classical.not_imp.mp ha
  have hs := hx hlive
  intro hagree
  cases a with
  | sendAck =>
    obtain rfl := Option.some.inj hf
    cases hchannel with
    | ackTaken g kind msg r hc hacc hfree hw => exact hbad (by simp [awaitsAck, hw])
    | ackQueued g kind msg hc hacc hfree hw =>
      have hlate : early s = false := by
        by_contra hearly
        have hanswer := (hs.unanswered (by simpa using hearly)).2
        simp [holdsAnswer, hc] at hanswer
      -- the cashier is neither waiting nor still to answer
      obtain ⟨hidle, hpending⟩ : s.worker = .idle ∧ s.pending = [] := by
        cases hworker : s.worker with
        | idle => exact ⟨rfl, by simp_all [early]⟩
        | opened g' r | answered g' r m => simp [early, hworker] at hlate
        | sent g' r | blocked g' r => simp [awaitsAck, hworker] at hbad
      have hmem := (hagree true rfl hidle hpending hlive).mp rfl
      have hnone := hs.active (by simp [entering, hc])
      rw [(hs.member hmem).1] at hnone
      cases hnone
  | workerStops why =>
    obtain rfl := Option.some.inj hf
    cases hchannel with
    | workerStops why hstop =>
      obtain ⟨hhand, g, r, hw⟩ := workerStop_exchange hstop
      obtain rfl := hs.queue.worker g r hw
      rw [conclude_of_unanswered fun g' r' msg hw' => by
        simp [ReplyChannel.inHand, hw'] at hhand] at hagree
      simp only [ackLies, hw, Bool.not_eq_false, Option.any_eq_true, decide_eq_true_eq] at hbad
      obtain ⟨msg, hmsg, hack⟩ := hbad
      have hentered := hs.ackQueued msg hmsg hack
      have hmem := (hagree true hentered rfl (hs.served hw).2 hlive).mp rfl
      exact hs.unregistered hw hmem
  | workerFinish logged now =>
    obtain rfl := Option.some.inj hf
    cases hchannel with
    | workerFinish logged now g r msg hw =>
      have hex : s.worker.exchange = some (g, r) := by rw [hw]; rfl
      simp only [Option.mem_def, not_forall] at hbad
      obtain ⟨m, hm, hack, hlogged⟩ := hbad
      rw [conclude_of_no_ack fun now' g' r' m' hfinish => by
        rw [(ChannelAction.workerFinish.inj hfinish).1] at hlogged
        exact absurd rfl hlogged] at hagree
      have hentered := hs.ackInHand m hm hack
      have hmem := (hagree true hentered rfl (hs.served hex).2 hlive).mp rfl
      exact hs.unregistered hex hmem
  | _ => exact hbad trivial

theorem agreed_start {P : Parties} {parkSize : ℕ} (client : ClientProc) (proc : CashierProc)
    (isOpen : Bool) (hnew : P.clientPID ∉ proc.clients) :
    Agreed P parkSize (.init client) ⟨proc, isOpen, false, none⟩ where
  queue := ⟨fun _ h => (by cases h), fun _ _ h => (by cases h), fun _ _ h => (by cases h)⟩
  active h := by cases h
  fresh _ := ⟨rfl, rfl⟩
  single := le_rfl
  unanswered _ := ⟨rfl, rfl⟩
  oneMessage h := by cases h
  allowed h := by cases h <;> contradiction
  room _ _ h := by cases h
  ackQueued _ h := by cases h
  ackInHand _ h := by cases h
  member h := absurd h hnew
  confirmed h := by cases h

/-- A client that is not registered yet and the cashier agree on its entry, in every state of a
run, exactly as long as the cashier waits for the `ACK` when it is sent and takes it up. -/
theorem agreement_iff_ackInTime (P : Parties) (parkSize : ℕ) (client : ClientProc)
    (proc : CashierProc) (isOpen : Bool) (hnew : P.clientPID ∉ proc.clients)
    (as : List (ChannelAction ClientProc CashierEvent)) :
    (machine P parkSize).Always (Agreement P.clientPID)
        (.init client, ⟨proc, isOpen, false, none⟩) as ↔
      (machine P parkSize).Meets AckInTime (.init client, ⟨proc, isOpen, false, none⟩) as := by
  refine Machine.always_iff_meets
    (I := fun x => x.2.proc.terminated = false → Agreed P parkSize x.1 x.2) ?_ ?_
    (fun x a y hx ha h => agreement_broken hx ha h) as
    (fun _ => agreed_start client proc isOpen hnew)
  · intro x hx entered hentered hidle _ hlive
    exact (hx hlive).agreement hidle hentered
  · intro x a y hx ha h hlive
    obtain ⟨hstep, hf⟩ := Machine.couple_step.mp h
    have hbefore := follow_live hf hlive
    exact (hx hbefore).step ha (ReplyChannel.step_channel hstep) hf hlive

instance (x : ReplyChannel ClientProc × ParkEntry)
    (a : ChannelAction ClientProc CashierEvent) : Decidable (AckInTime x a) := by
  unfold AckInTime
  split <;> infer_instance

/-- Client 7 and the cashier 1 agree when the `ACK` arrives in time. -/
theorem agreement_confirmed :
    (machine ⟨7, 1, by decide, .cashier⟩ 4).Always (Agreement 7)
      (.init (.init ⟨false, false, .h2, ⟨30, 180⟩, ⟨0, 0⟩⟩), ⟨.init, true, false, none⟩)
      [.create .enter, .request, .receive, .workerOpen 0, .workerSend (.permit true 0),
        .workerReceive, .sendAck, .workerFinish (.ok ()) 0, .close] :=
  (agreement_iff_ackInTime ⟨7, 1, by decide, .cashier⟩ 4 _ .init true (by decide) _).mpr
    (by decide)

end ParkEntry

/-- The cashier's receive times out after the client has taken its permit and before it has
sent its `ACK`. -/
def lateAckRun : List (ChannelAction ClientProc CashierEvent) :=
  [.create .enter, .request, .receive, .workerOpen 0, .workerSend (.permit true 0),
    .workerReceive, .workerStops .receiveTimeout, .sendAck]

/-- The client enters the park and nobody is registered. -/
theorem lateAck_enters_unregistered :
    ∃ x, (ParkEntry.machine ⟨7, 1, by decide, .cashier⟩ 4).exec
        (.init (.init ⟨false, false, .h2, ⟨30, 180⟩, ⟨0, 0⟩⟩), ⟨.init, true, false, none⟩)
        lateAckRun = some x ∧
      x.2.entered = some true ∧ x.2.proc.clients = ∅ ∧ ¬ ParkEntry.Agreement 7 x := by
  refine ⟨_, rfl, rfl, rfl, fun h => ?_⟩
  exact absurd ((h true rfl rfl rfl rfl).mp rfl) (by decide)

end AmusementPark.Channel
