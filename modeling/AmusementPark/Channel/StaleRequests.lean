import AmusementPark.Channel.ReplyChannel
import AmusementPark.Client.ClientProc
import AmusementPark.Restaurant.RestaurantProc

/-! # Requests that outlive their visit

A client may give up on a visit to the restaurant while its request stays
queued there. Requests and permits carry no identifier, and every visit reuses
the name of the reply queue, so the restaurant answers an old request on the
queue of a newer visit. What it records is what the old request said.
-/
namespace AmusementPark.Channel
open Library Client Worker Restaurant

/-- The park closes, or the restaurant goes on to fill another round. -/
inductive RestaurantEvent where
  | closePark
  | fills (handler : AttractionHandler)

/-- An entry made by `AddClient`: the handler after it, the entry, and `m_enteredPark` of the
client when it sent its `ACK` on the queue the `ACK` came from. -/
structure Record where
  handler : AttractionHandler
  data : HandlerClientData
  acked : Option Bool

/-- The entry says where the client was when it confirmed. So as long as the entry stands, the
restaurant tries to send a bill exactly to a client that waits for one. -/
structure Record.Agrees (pid : Pid) (entry : Record) : Prop where
  fromPark : entry.acked = some entry.data.fromPark
  entered : entry.handler.clientList.lookup pid = some entry.data
  billed : ∀ (r : RestaurantProc) (handler : AttractionHandler) (x : ReplyOutcome),
    r.handler = some handler → handler.clientList.lookup pid = some entry.data →
      ((RestaurantProc.pSendBill pid x r).2.isSome = true ↔
        ∃ enteredPark, entry.acked = some enteredPark ∧
          ClientProc.waitsForRestaurantBill enteredPark true = true)

/-- The restaurant's side of the visits. `conversation` and `acked` remember for each queue the
kind of its conversation and `m_enteredPark` of the client at its creation and at its `ACK`. -/
structure RestaurantVisits where
  handler : AttractionHandler
  isOpen : Bool
  allowed : Bool
  conversation : ℕ → Option (RequestKind × Bool)
  acked : ℕ → Option Bool
  records : List Record

namespace RestaurantVisits

/-- The restaurant after the exchange of this step, if it ends one of an entering client. -/
def conclude (e : RestaurantVisits) (pid : Pid) (cfg : AttractionConfig)
    (s : ReplyChannel ClientProc) (a : ChannelAction ClientProc RestaurantEvent) :
    RestaurantVisits :=
  match s.outcome a with
  | none => e
  | some (r, x) => if r.kind = .enter then
      let message := ClientProc.enterRestaurantMessage pid r.memory
      let handler := (RestaurantProc.pRegisterClient e.allowed cfg message x e.handler).2
      { e with
        handler := handler
        records := ((RestaurantProc.admission e.allowed cfg message x e.handler).map fun data =>
          ⟨handler, data, (s.worker.exchange.map Prod.fst).bind e.acked⟩).toList ++ e.records }
    else e

/-- Whether `pRegisterClient` returns before it opens the client's queue. -/
def full (e : RestaurantVisits) (cfg : AttractionConfig) (r : Request ClientProc) : Bool :=
  decide (r.kind = .enter) && e.isOpen &&
    decide (cfg.maxClientsPerHandler < e.handler.getClientCount +
      partySize r.memory.data.hasChild)

/-- The restaurant as it follows the channel. -/
def follow (pid : Pid) (cfg : AttractionConfig) (e : RestaurantVisits)
    (s : ReplyChannel ClientProc) (a : ChannelAction ClientProc RestaurantEvent)
    (_ : ReplyChannel ClientProc) : Option RestaurantVisits :=
  match a with
  | .create kind => some { e with
      conversation := Function.update e.conversation s.nextQueue
        (some (kind, s.memory.enteredPark)) }
  | .sendAck => some { e with
      acked := match s.client.conversation with
        | none => e.acked
        | some (g, _) => Function.update e.acked g (some s.memory.enteredPark) }
  | .remember _ | .request | .requestAlone | .receive | .clientStops _ | .close
  | .workerSkip _ | .workerReceive => some e
  | .workerOpen i => match s.pending[i]? with
    | none => none
    | some r => if e.full cfg r then none
      else some { e.conclude pid cfg s a with allowed := e.isOpen }
  | .workerSend (.permit allowed _) => if allowed = e.allowed then
      some (e.conclude pid cfg s a) else none
  | .workerSend (.bill _) | .workerStops _ | .workerFinish _ _ => some (e.conclude pid cfg s a)
  | .elsewhere .closePark => some { e with isOpen := false }
  | .elsewhere (.fills handler) => match s.worker with
    | .idle => some { e with handler := handler }
    | _ => none

/-- The client's visits and the restaurant. -/
def machine (P : Parties) (cfg : AttractionConfig) :
    Machine (ReplyChannel ClientProc × RestaurantVisits)
      (ChannelAction ClientProc RestaurantEvent) :=
  (ReplyChannel.machine ClientProc RestaurantEvent P).couple (follow P.clientPID cfg)

def start (handler : AttractionHandler) (isOpen : Bool) : RestaurantVisits :=
  ⟨handler, isOpen, false, fun _ => none, fun _ => none, []⟩

def RecordsAgree (pid : Pid) (x : ReplyChannel ClientProc × RestaurantVisits) : Prop :=
  ∀ entry ∈ x.2.records, Record.Agrees pid entry

/-- When the restaurant opens the queue of an entering client for a request, the request says
where the client is now. -/
def FindsCurrentVisit (x : ReplyChannel ClientProc × RestaurantVisits)
    (a : ChannelAction ClientProc RestaurantEvent) : Prop :=
  match a with
  | .workerOpen i => ∀ r ∈ x.1.pending[i]?, r.kind = .enter →
      x.1.client.conversation.map Prod.snd = some .enter →
        r.memory.enteredPark = x.1.memory.enteredPark
  | _ => True

/-- What the queues and the phases say about the conversations. A permit handshake on the queue
of a leaving client never meets an `ACK`. -/
structure Current (P : Parties) (s : ReplyChannel ClientProc) (e : RestaurantVisits) : Prop where
  linked : ∀ g, s.linked = some g → ∃ kind, s.client.conversation = some (g, kind)
  client : ∀ g kind, s.client.conversation = some (g, kind) →
    e.conversation g = some (kind, s.memory.enteredPark)
  created : ∀ g c, e.conversation g = some c → g < s.nextQueue
  serving : ∀ g r, s.worker.exchange = some (g, r) → r.kind = .enter →
    ∃ kind enteredPark, e.conversation g = some (kind, enteredPark) ∧
      (kind = .enter → r.memory.enteredPark = enteredPark)
  acked : ∀ g enteredPark, e.acked g = some enteredPark →
    ∃ kind, e.conversation g = some (kind, enteredPark)
  ackQueued : ∀ g msg, s.slot g = some msg → msg.mType = .ack → (e.acked g).isSome = true
  ackInHand : ∀ g r msg, s.worker = .answered g r msg → msg.mType = .ack →
    (e.acked g).isSome = true
  blockedFree : ∀ g r, s.worker = .blocked g r → s.slot g = none
  leaveSent : ∀ g r enteredPark, s.worker = .sent g r → r.kind = .enter →
    e.conversation g = some (.leave, enteredPark) →
      (∃ msg, s.slot g = some msg ∧ msg.mType = P.permitType) ∨
      (s.slot g = none ∧ ∀ kind msg, s.client = .received g kind msg →
        P.accepts kind msg = false)
  leaveBlocked : ∀ g r enteredPark, s.worker = .blocked g r → r.kind = .enter →
    e.conversation g = some (.leave, enteredPark) → ∀ kind msg,
      s.client = .received g kind msg → P.accepts kind msg = false
  leaveAnswered : ∀ g r msg enteredPark, s.worker = .answered g r msg → r.kind = .enter →
    e.conversation g = some (.leave, enteredPark) → msg.mType ≠ .ack

theorem permitType_ne_ack (P : Parties) : P.permitType ≠ .ack := by
  cases hk : P.worker <;> simp [Parties.permitType, hk]

theorem permitType_ne_bill (P : Parties) : P.permitType ≠ .bill := by
  cases hk : P.worker <;> simp [Parties.permitType, hk]

theorem message_mType_of_enter {P : Parties} {answer : Answer} (h : answer.kind = .enter) :
    (P.message answer).mType = P.permitType := by
  cases answer with
  | permit allowed leaveSemaphoreID => rfl
  | bill price => cases h

/-- A leaving client confirms no permit. -/
theorem accepts_leave_of_permit {P : Parties} {msg : ClientMQMessage}
    (h : msg.mType = P.permitType) : P.accepts .leave msg = false := by
  simp [Parties.accepts, h, permitType_ne_bill]

theorem message_ne_ack (P : Parties) (answer : Answer) : (P.message answer).mType ≠ .ack := by
  cases answer with
  | permit allowed leaveSemaphoreID => exact permitType_ne_ack P
  | bill price => simp [Parties.message]

theorem conclude_ghost (e : RestaurantVisits) (pid : Pid) (cfg : AttractionConfig)
    (s : ReplyChannel ClientProc) (a : ChannelAction ClientProc RestaurantEvent) :
    (e.conclude pid cfg s a).conversation = e.conversation ∧
      (e.conclude pid cfg s a).acked = e.acked := by
  unfold conclude
  cases s.outcome a with
  | none => exact ⟨rfl, rfl⟩
  | some ended => by_cases hkind : ended.1.kind = .enter <;> simp [hkind]

/-- A new entry comes from an exchange that ends with an `ACK` in hand, and repeats what the
request of this exchange said. -/
theorem mem_records_conclude {e : RestaurantVisits} {pid : Pid} {cfg : AttractionConfig}
    {s : ReplyChannel ClientProc} {a : ChannelAction ClientProc RestaurantEvent}
    {entry : Record} (h : entry ∈ (e.conclude pid cfg s a).records) :
    entry ∈ e.records ∨ ∃ g r msg, s.worker = .answered g r msg ∧ r.kind = .enter ∧
      msg.mType = .ack ∧ entry.acked = e.acked g ∧
      entry.data.fromPark = r.memory.enteredPark ∧
      entry.handler.clientList.lookup pid = some entry.data := by
  unfold conclude at h
  cases hout : s.outcome a with
  | none => exact .inl (by simpa only [hout] using h)
  | some ended =>
    rcases ended with ⟨r, x⟩
    simp only [hout] at h
    split at h
    · rename_i hkind
      simp only [List.mem_append, Option.mem_toList, Option.map_eq_some_iff] at h
      obtain ⟨data, hadm, rfl⟩ | hold := h
      · right
        obtain ⟨-, -, hlist, hhand, content, hcontent, rfl⟩ :=
          RestaurantProc.admission_eq_some hadm
        obtain ⟨logged, now, g, msg, -, hw, hack, -⟩ :=
          ReplyChannel.outcome_registers hout hhand
        have hpark := RestaurantMessageContent.enterRestaurant.inj hcontent
        refine ⟨g, r, msg, hw, hkind, hack, ?_, ?_, ?_⟩
        · simp [hw, WorkerPhase.exchange]
        · rw [← hpark]
        · rw [hlist]
          exact AList.lookup_insert _
      · exact .inl hold
    · exact .inl h

/-- A step of the restaurant records what the exchange that it ends adds, and only the client's
own steps are remembered for a queue. -/
theorem follow_effect {pid : Pid} {cfg : AttractionConfig} {e e' : RestaurantVisits}
    {s t : ReplyChannel ClientProc} {a : ChannelAction ClientProc RestaurantEvent}
    (h : e.follow pid cfg s a t = some e') :
    e'.records = (e.conclude pid cfg s a).records ∧ ((∀ kind, a ≠ .create kind) → a ≠ .sendAck →
      e'.conversation = e.conversation ∧ e'.acked = e.acked) := by
  have hghost := conclude_ghost e pid cfg s a
  cases a with
  | create kind => exact Option.some.inj h ▸ ⟨rfl, fun hne => absurd rfl (hne kind)⟩
  | sendAck => exact Option.some.inj h ▸ ⟨rfl, fun _ hne => absurd rfl hne⟩
  | remember | request | requestAlone | receive | clientStops | close | workerSkip
  | workerReceive => exact Option.some.inj h ▸ ⟨rfl, fun _ _ => ⟨rfl, rfl⟩⟩
  | workerStops | workerFinish => exact Option.some.inj h ▸ ⟨rfl, fun _ _ => hghost⟩
  | workerOpen i =>
    simp only [follow] at h
    split at h
    · cases h
    · simp only [Option.ite_none_left_eq_some, Option.some.injEq] at h
      exact h.2 ▸ ⟨rfl, fun _ _ => hghost⟩
  | workerSend answer => cases answer with
    | permit allowed leaveSemaphoreID =>
      simp only [follow, Option.ite_none_right_eq_some, Option.some.injEq] at h
      exact h.2 ▸ ⟨rfl, fun _ _ => hghost⟩
    | bill price => exact Option.some.inj h ▸ ⟨rfl, fun _ _ => hghost⟩
  | elsewhere event => cases event with
    | closePark => exact Option.some.inj h ▸ ⟨rfl, fun _ _ => ⟨rfl, rfl⟩⟩
    | fills handler =>
      simp only [follow] at h
      split at h
      · exact Option.some.inj h ▸ ⟨rfl, fun _ _ => ⟨rfl, rfl⟩⟩
      · cases h

/-- An entry made with the client's own `m_enteredPark` leaves client and restaurant agreed on
the bill. -/
theorem Record.agrees {pid : Pid} {entry : Record}
    (hacked : entry.acked = some entry.data.fromPark)
    (hlookup : entry.handler.clientList.lookup pid = some entry.data) :
    Record.Agrees pid entry := by
  refine ⟨hacked, hlookup, fun r handler x hr hdata => ?_⟩
  rw [RestaurantProc.pSendBill_attempt]
  constructor
  · rintro ⟨current, hcurrent, data, hfound, hpark⟩
    obtain rfl := Option.some.inj (hr.symm.trans hcurrent)
    obtain rfl := Option.some.inj (hdata.symm.trans hfound)
    exact ⟨false, hpark ▸ hacked, rfl⟩
  · rintro ⟨park, hpark, hwaits⟩
    obtain rfl := Option.some.inj (hacked.symm.trans hpark)
    refine ⟨handler, hr, entry.data, hdata, ?_⟩
    simpa [ClientProc.waitsForRestaurantBill] using hwaits

section Steps
variable {P : Parties} {s t : ReplyChannel ClientProc} {e e' : RestaurantVisits}

theorem Current.congr (hs : Current P s e) (hconv : e'.conversation = e.conversation)
    (hacked : e'.acked = e.acked) : Current P s e' where
  linked := hs.linked
  client := by rw [hconv]; exact hs.client
  created := by rw [hconv]; exact hs.created
  serving := by rw [hconv]; exact hs.serving
  acked := by rw [hconv, hacked]; exact hs.acked
  ackQueued := by rw [hacked]; exact hs.ackQueued
  ackInHand := by rw [hacked]; exact hs.ackInHand
  blockedFree := hs.blockedFree
  leaveSent := by rw [hconv]; exact hs.leaveSent
  leaveBlocked := by rw [hconv]; exact hs.leaveBlocked
  leaveAnswered := by rw [hconv]; exact hs.leaveAnswered

/-- The client moves on inside its conversation without taking or sending a message. -/
theorem Current.clientMoves (hs : Current P s e)
    (hphase : t.client.conversation = s.client.conversation)
    (hclient : ∀ g kind msg, t.client ≠ .received g kind msg) (hmemory : t.memory = s.memory)
    (hnext : t.nextQueue = s.nextQueue) (hlinked : t.linked = s.linked)
    (hslot : t.slot = s.slot) (hworker : t.worker = s.worker) : Current P t e where
  linked := by rw [hlinked, hphase]; exact hs.linked
  client := by rw [hphase, hmemory]; exact hs.client
  created := by rw [hnext]; exact hs.created
  serving := by rw [hworker]; exact hs.serving
  acked := hs.acked
  ackQueued := by rw [hslot]; exact hs.ackQueued
  ackInHand := by rw [hworker]; exact hs.ackInHand
  blockedFree := by rw [hworker, hslot]; exact hs.blockedFree
  leaveSent g r park hw hkind hconv := by
    rw [hslot]
    obtain hpermit | ⟨hfree, -⟩ := hs.leaveSent g r park (hworker ▸ hw) hkind hconv
    · exact .inl hpermit
    · exact .inr ⟨hfree, fun kind msg h => absurd h (hclient g kind msg)⟩
  leaveBlocked g _ _ _ _ _ kind msg h := absurd h (hclient g kind msg)
  leaveAnswered := by rw [hworker]; exact hs.leaveAnswered

/-- The worker is done with an exchange, or takes up no new one. -/
theorem Current.workerIdle (hs : Current P s e) (pending : List (Request ClientProc)) :
    Current P { s with pending := pending, worker := .idle } e where
  linked := hs.linked
  client := hs.client
  created := hs.created
  serving _ _ h := by cases h
  acked := hs.acked
  ackQueued := hs.ackQueued
  ackInHand _ _ _ h := by cases h
  blockedFree _ _ h := by cases h
  leaveSent _ _ _ h := by cases h
  leaveBlocked _ _ _ h := by cases h
  leaveAnswered _ _ _ _ h := by cases h

/-- A new conversation gets a queue of its own. -/
theorem Current.create (hs : Current P s e) (kind : RequestKind) :
    Current P { s with
        nextQueue := s.nextQueue + 1
        linked := some s.nextQueue
        client := .created s.nextQueue kind }
      { e with
        conversation := Function.update e.conversation s.nextQueue
          (some (kind, s.memory.enteredPark)) } := by
  have hold (g : ℕ) (c : RequestKind × Bool) (h : e.conversation g = some c) :
      Function.update e.conversation s.nextQueue (some (kind, s.memory.enteredPark)) g =
        some c := by
    rw [Function.update_of_ne (hs.created g c h).ne, h]
  -- the exchange of the worker is over a queue that existed before
  have hserved (g : ℕ) (r : Request ClientProc) (hw : s.worker.exchange = some (g, r))
      (hkind : r.kind = .enter) (c : RequestKind × Bool)
      (h : Function.update e.conversation s.nextQueue (some (kind, s.memory.enteredPark)) g =
        some c) : e.conversation g = some c := by
    obtain ⟨k, park, hconv, -⟩ := hs.serving g r hw hkind
    rw [hold g _ hconv] at h
    rw [hconv, h]
  refine ⟨fun g h => ⟨kind, ?_⟩, fun g k h => ?_, fun g c h => ?_, fun g r hw hkind => ?_,
    fun g park h => ?_, hs.ackQueued, hs.ackInHand, hs.blockedFree,
    fun g r park hw hkind hconv => ?_, fun _ _ _ _ _ _ _ _ h => (by cases h),
    fun g r msg park hw hkind hconv => ?_⟩
  · exact congrArg some (Prod.ext (Option.some.inj h) rfl)
  · obtain ⟨rfl, rfl⟩ := Prod.mk.inj (Option.some.inj h)
    simp
  · by_cases hg : g = s.nextQueue
    · exact hg ▸ Nat.lt_succ_self _
    · dsimp only at h
      rw [Function.update_of_ne hg] at h
      exact (hs.created g c h).trans (Nat.lt_succ_self _)
  · obtain ⟨k, park, hconv, henter⟩ := hs.serving g r hw hkind
    exact ⟨k, park, hold g _ hconv, henter⟩
  · obtain ⟨k, hconv⟩ := hs.acked g park h
    exact ⟨k, hold g _ hconv⟩
  · have hex : s.worker.exchange = some (g, r) := by
      rw [show s.worker = .sent g r from hw]
      rfl
    obtain hpermit | ⟨hfree, -⟩ := hs.leaveSent g r park hw hkind
      (hserved g r hex hkind _ hconv)
    · exact .inl hpermit
    · exact .inr ⟨hfree, fun _ _ h => by cases h⟩
  · have hex : s.worker.exchange = some (g, r) := by
      rw [show s.worker = .answered g r msg from hw]
      rfl
    exact hs.leaveAnswered g r msg park hw hkind (hserved g r hex hkind _ hconv)

/-- The client receives the message that is queued for it. -/
theorem Current.receives (hs : Current P s e) {g : ℕ} {kind : RequestKind}
    {msg : ClientMQMessage} (hc : s.client = .requested g kind) (hmsg : s.slot g = some msg) :
    Current P { s with
      slot := Function.update s.slot g none
      client := .received g kind msg } e := by
  have hlinked := hs.linked
  have hclient := hs.client
  rw [hc] at hlinked hclient
  refine
    { linked := hlinked
      client := hclient
      created := hs.created
      serving := hs.serving
      acked := hs.acked
      ackQueued := fun g' m h => hs.ackQueued g' m (ReplyChannel.slot_of_taken h).2
      ackInHand := hs.ackInHand
      blockedFree := fun g' r hw => ?blockedFree
      leaveSent := fun g' r park hw hkind hconv => ?leaveSent
      leaveBlocked := fun g' r park hw hkind hconv k m h => ?leaveBlocked
      leaveAnswered := hs.leaveAnswered }
  case blockedFree =>
    by_cases hg : g' = g
    · subst hg
      simp
    · simpa [Function.update_of_ne hg] using hs.blockedFree g' r hw
  case leaveSent =>
    by_cases hg : g' = g
    · subst hg
      have hleave : kind = .leave :=
        (Prod.mk.inj (Option.some.inj ((hclient g' kind rfl).symm.trans hconv))).1
      refine .inr ⟨by simp, fun k m h => ?_⟩
      obtain ⟨-, rfl, rfl⟩ := ClientPhase.received.inj h
      obtain ⟨m', hm', htype⟩ | ⟨hfree, -⟩ := hs.leaveSent g' r park hw hkind hconv
      · rw [hmsg, Option.some.injEq] at hm'
        exact hleave ▸ accepts_leave_of_permit (hm' ▸ htype)
      · rw [hmsg] at hfree
        cases hfree
    · obtain ⟨m', hm', htype⟩ | ⟨hfree, -⟩ := hs.leaveSent g' r park hw hkind hconv
      · exact .inl ⟨m', by simpa [Function.update_of_ne hg] using hm', htype⟩
      · refine .inr ⟨by simpa [Function.update_of_ne hg] using hfree, fun k m h => ?_⟩
        exact absurd (ClientPhase.received.inj h).1.symm hg
  case leaveBlocked =>
    obtain ⟨rfl, -, -⟩ := ClientPhase.received.inj h
    have hfree := hs.blockedFree g r hw
    rw [hmsg] at hfree
    cases hfree

/-- The client has confirmed on its queue, and says so where it is. -/
theorem Current.acknowledges (hs : Current P s e) {g : ℕ} {kind : RequestKind}
    (hphase : s.client.conversation = some (g, kind)) (g' : ℕ) (enteredPark : Bool)
    (h : Function.update e.acked g (some s.memory.enteredPark) g' = some enteredPark) :
    ∃ kind, e.conversation g' = some (kind, enteredPark) := by
  by_cases hg : g' = g
  · subst hg
    simp only [Function.update_self, Option.some.injEq] at h
    exact ⟨kind, h ▸ hs.client g' kind hphase⟩
  · rw [Function.update_of_ne hg] at h
    exact hs.acked g' enteredPark h

theorem isSome_update_acked {acked : ℕ → Option Bool} {g g' : ℕ} (enteredPark : Bool)
    (h : g' ≠ g → (acked g').isSome = true) :
    (Function.update acked g (some enteredPark) g').isSome = true := by
  by_cases hg : g' = g
  · subst hg
    simp
  · rw [Function.update_of_ne hg]
    exact h hg

/-- The `ACK` reaches a restaurant that is blocked on the queue. A leaving client would not have
confirmed what it got there. -/
theorem Current.ackTaken (hs : Current P s e) {g : ℕ} {kind : RequestKind}
    {msg : ClientMQMessage} {r : Request ClientProc} (hc : s.client = .received g kind msg)
    (hacc : P.accepts kind msg = true) (hw : s.worker = .blocked g r) :
    Current P { s with
        client := .returned g kind true
        worker := .answered g r (ackMsg P.clientPID) }
      { e with acked := Function.update e.acked g (some s.memory.enteredPark) } := by
  have hlinked := hs.linked
  have hclient := hs.client
  have hserving := hs.serving
  rw [hc] at hlinked hclient
  rw [hw] at hserving
  refine
    { linked := hlinked
      client := hclient
      created := hs.created
      serving := hserving
      acked := hs.acknowledges (by rw [hc]; rfl)
      ackQueued := fun g' m h hm => isSome_update_acked _ fun _ => hs.ackQueued g' m h hm
      ackInHand := fun g' r' m h _ => ?ackInHand
      blockedFree := fun _ _ h => by cases h
      leaveSent := fun _ _ _ h => by cases h
      leaveBlocked := fun _ _ _ h => by cases h
      leaveAnswered := fun g' r' m park h hkind hleave => ?leaveAnswered }
  case ackInHand =>
    obtain ⟨rfl, -, -⟩ := WorkerPhase.answered.inj h
    exact isSome_update_acked _ fun hne => absurd rfl hne
  case leaveAnswered =>
    obtain ⟨rfl, rfl, -⟩ := WorkerPhase.answered.inj h
    have hno := hs.leaveBlocked g r park hw hkind hleave kind msg hc
    rw [hacc] at hno
    cases hno

/-- The `ACK` stays in the queue. -/
theorem Current.ackStays (hs : Current P s e) {g : ℕ} {kind : RequestKind}
    {msg : ClientMQMessage} (hc : s.client = .received g kind msg)
    (hacc : P.accepts kind msg = true) (hfree : s.slot g = none)
    (hw : ∀ r, s.worker ≠ .blocked g r) :
    Current P { s with
        slot := Function.update s.slot g (some (ackMsg P.clientPID))
        client := .returned g kind true }
      { e with acked := Function.update e.acked g (some s.memory.enteredPark) } := by
  have hlinked := hs.linked
  have hclient := hs.client
  rw [hc] at hlinked hclient
  refine
    { linked := hlinked
      client := hclient
      created := hs.created
      serving := hs.serving
      acked := hs.acknowledges (by rw [hc]; rfl)
      ackQueued := fun g' m h hm => isSome_update_acked _ fun hg =>
        hs.ackQueued g' m (by simpa [Function.update_of_ne hg] using h) hm
      ackInHand := fun g' r m h hm => isSome_update_acked _ fun _ => hs.ackInHand g' r m h hm
      blockedFree := fun g' r h => ?blockedFree
      leaveSent := fun g' r park h hkind hleave => ?leaveSent
      leaveBlocked := fun _ _ _ _ _ _ _ _ h => by cases h
      leaveAnswered := hs.leaveAnswered }
  case blockedFree =>
    have hg : g' ≠ g := by
      rintro rfl
      exact hw r h
    simpa [Function.update_of_ne hg] using hs.blockedFree g' r h
  case leaveSent =>
    obtain ⟨m, hm, htype⟩ | ⟨hfree', hno⟩ := hs.leaveSent g' r park h hkind hleave
    · have hg : g' ≠ g := by
        rintro rfl
        rw [hfree] at hm
        cases hm
      exact .inl ⟨m, by simpa [Function.update_of_ne hg] using hm, htype⟩
    · have hg : g' ≠ g := by
        rintro rfl
        rw [hno kind msg hc] at hacc
        cases hacc
      exact .inr ⟨by simpa [Function.update_of_ne hg] using hfree', fun _ _ h => by cases h⟩

/-- The client closes its conversation. -/
theorem Current.closes (hs : Current P s e) :
    Current P { s with linked := none, client := .idle } e where
  linked _ h := by cases h
  client _ _ h := by cases h
  created := hs.created
  serving := hs.serving
  acked := hs.acked
  ackQueued := hs.ackQueued
  ackInHand := hs.ackInHand
  blockedFree := hs.blockedFree
  leaveSent g r park hw hkind hleave :=
    (hs.leaveSent g r park hw hkind hleave).imp_right fun h => ⟨h.1, fun _ _ h => by cases h⟩
  leaveBlocked _ _ _ _ _ _ _ _ h := by cases h
  leaveAnswered := hs.leaveAnswered

/-- The client changes between two conversations. -/
theorem Current.remembers (hs : Current P s e) (hc : s.client = .idle) (memory : ClientProc) :
    Current P { s with memory := memory } e where
  linked := hs.linked
  client g kind h := by
    rw [show s.client = .idle from hc] at h
    cases h
  created := hs.created
  serving := hs.serving
  acked := hs.acked
  ackQueued := hs.ackQueued
  ackInHand := hs.ackInHand
  blockedFree := hs.blockedFree
  leaveSent := hs.leaveSent
  leaveBlocked := hs.leaveBlocked
  leaveAnswered := hs.leaveAnswered

/-- The restaurant takes up a request of a client that is where the request says. -/
theorem Current.opens (hs : Current P s e) {g : ℕ} {r : Request ClientProc}
    (pending : List (Request ClientProc)) (hl : s.linked = some g)
    (hfinds : r.kind = .enter → s.client.conversation = some (g, .enter) →
      r.memory.enteredPark = s.memory.enteredPark) :
    Current P { s with pending := pending, worker := .opened g r } e where
  linked := hs.linked
  client := hs.client
  created := hs.created
  serving g' r' h hkind := by
    obtain ⟨rfl, rfl⟩ := Prod.mk.inj (Option.some.inj h)
    obtain ⟨kind, hphase⟩ := hs.linked g hl
    refine ⟨kind, s.memory.enteredPark, hs.client g kind hphase, ?_⟩
    rintro rfl
    exact hfinds hkind hphase
  acked := hs.acked
  ackQueued := hs.ackQueued
  ackInHand _ _ _ h := by cases h
  blockedFree _ _ h := by cases h
  leaveSent _ _ _ h := by cases h
  leaveBlocked _ _ _ h := by cases h
  leaveAnswered _ _ _ _ h := by cases h

/-- The permit goes to a client that is blocked in its receive. -/
theorem Current.replyTaken (hs : Current P s e) {answer : Answer} {g : ℕ}
    {r : Request ClientProc} {kind : RequestKind} (hw : s.worker = .opened g r)
    (hk : answer.kind = r.kind) (hfree : s.slot g = none) (hc : s.client = .blocked g kind) :
    Current P { s with
      client := .received g kind (P.message answer)
      worker := .sent g r } e := by
  have hlinked := hs.linked
  have hclient := hs.client
  have hserving := hs.serving
  rw [hc] at hlinked hclient
  rw [hw] at hserving
  refine
    { linked := hlinked
      client := hclient
      created := hs.created
      serving := hserving
      acked := hs.acked
      ackQueued := hs.ackQueued
      ackInHand := fun _ _ _ h => by cases h
      blockedFree := fun _ _ h => by cases h
      leaveSent := fun g' r' park h hkind hleave => .inr ?leaveSent
      leaveBlocked := fun _ _ _ h => by cases h
      leaveAnswered := fun _ _ _ _ h => by cases h }
  obtain ⟨rfl, rfl⟩ := WorkerPhase.sent.inj h
  refine ⟨hfree, fun k m hreceived => ?_⟩
  obtain ⟨-, rfl, rfl⟩ := ClientPhase.received.inj hreceived
  have hkleave : kind = .leave :=
    (Prod.mk.inj (Option.some.inj ((hclient g kind rfl).symm.trans hleave))).1
  exact hkleave ▸ accepts_leave_of_permit (message_mType_of_enter (hk.trans hkind))

/-- The permit stays in the queue. -/
theorem Current.replyStays (hs : Current P s e) {answer : Answer} {g : ℕ}
    {r : Request ClientProc} (hw : s.worker = .opened g r) (hk : answer.kind = r.kind) :
    Current P { s with
      slot := Function.update s.slot g (some (P.message answer))
      worker := .sent g r } e := by
  have hserving := hs.serving
  rw [hw] at hserving
  refine
    { linked := hs.linked
      client := hs.client
      created := hs.created
      serving := hserving
      acked := hs.acked
      ackQueued := fun g' m h hm => ?ackQueued
      ackInHand := fun _ _ _ h => by cases h
      blockedFree := fun _ _ h => by cases h
      leaveSent := fun g' r' park h hkind _ => .inl ?leaveSent
      leaveBlocked := fun _ _ _ h => by cases h
      leaveAnswered := fun _ _ _ _ h => by cases h }
  case ackQueued =>
    by_cases hg : g' = g
    · subst hg
      simp only [Function.update_self, Option.some.injEq] at h
      exact absurd (h ▸ hm) (message_ne_ack P answer)
    · exact hs.ackQueued g' m (by simpa [Function.update_of_ne hg] using h) hm
  case leaveSent =>
    obtain ⟨rfl, rfl⟩ := WorkerPhase.sent.inj h
    exact ⟨_, by simp, message_mType_of_enter (hk.trans hkind)⟩

/-- The restaurant finds a message in the queue: the `ACK`, or its own permit. -/
theorem Current.workerReceives (hs : Current P s e) {g : ℕ} {r : Request ClientProc}
    {msg : ClientMQMessage} (hw : s.worker = .sent g r) (hmsg : s.slot g = some msg) :
    Current P { s with
      slot := Function.update s.slot g none
      worker := .answered g r msg } e := by
  have hserving := hs.serving
  rw [hw] at hserving
  refine
    { linked := hs.linked
      client := hs.client
      created := hs.created
      serving := hserving
      acked := hs.acked
      ackQueued := fun g' m h hm => hs.ackQueued g' m (ReplyChannel.slot_of_taken h).2 hm
      ackInHand := fun g' r' m h hm => ?ackInHand
      blockedFree := fun _ _ h => by cases h
      leaveSent := fun _ _ _ h => by cases h
      leaveBlocked := fun _ _ _ h => by cases h
      leaveAnswered := fun g' r' m park h hkind hleave => ?leaveAnswered }
  case ackInHand =>
    obtain ⟨rfl, -, rfl⟩ := WorkerPhase.answered.inj h
    exact hs.ackQueued g msg hmsg hm
  case leaveAnswered =>
    obtain ⟨rfl, rfl, rfl⟩ := WorkerPhase.answered.inj h
    obtain ⟨m, hm, htype⟩ | ⟨hfree, -⟩ := hs.leaveSent g r park hw hkind hleave
    · obtain rfl := Option.some.inj (hmsg.symm.trans hm)
      exact htype ▸ permitType_ne_ack P
    · rw [hmsg] at hfree
      cases hfree

/-- The restaurant finds the queue empty and blocks. -/
theorem Current.workerBlocks (hs : Current P s e) {g : ℕ} {r : Request ClientProc}
    (hw : s.worker = .sent g r) (hfree : s.slot g = none) :
    Current P { s with worker := .blocked g r } e := by
  have hserving := hs.serving
  rw [hw] at hserving
  refine
    { linked := hs.linked
      client := hs.client
      created := hs.created
      serving := hserving
      acked := hs.acked
      ackQueued := hs.ackQueued
      ackInHand := fun _ _ _ h => by cases h
      blockedFree := fun g' r' h => (WorkerPhase.blocked.inj h).1 ▸ hfree
      leaveSent := fun _ _ _ h => by cases h
      leaveBlocked := fun g' r' park h hkind hleave => ?leaveBlocked
      leaveAnswered := fun _ _ _ _ h => by cases h }
  obtain ⟨rfl, rfl⟩ := WorkerPhase.blocked.inj h
  obtain ⟨m, hm, -⟩ | ⟨-, hno⟩ := hs.leaveSent g r park hw hkind hleave
  · rw [hfree] at hm
    cases hm
  · exact hno

/-- A step that is not remembered for a queue. -/
theorem Current.step_of_quiet (hs : Current P s e)
    {a : ChannelAction ClientProc RestaurantEvent} (hfinds : FindsCurrentVisit (s, e) a)
    (hstep : ReplyChannel.ChannelStep P s a t) (hcreate : ∀ kind, a ≠ .create kind)
    (hack : a ≠ .sendAck) : Current P t e := by
  cases hstep with
  | create kind hc => exact absurd rfl (hcreate kind)
  | ackTaken | ackQueued => exact absurd rfl hack
  | remember memory hc => exact hs.remembers hc memory
  | request g kind hc =>
    exact hs.clientMoves (by rw [hc]; rfl) (by simp) rfl rfl rfl rfl rfl
  | requestAlone hc => exact hs.clientMoves rfl (by simp [hc]) rfl rfl rfl rfl rfl
  | receiveMsg g kind msg hc hslot => exact hs.receives hc hslot
  | receiveBlock g kind hc hslot =>
    exact hs.clientMoves (by rw [hc]; rfl) (by simp) rfl rfl rfl rfl rfl
  | clientStops why g kind h =>
    exact hs.clientMoves (ReplyChannel.clientStop_conversation h).symm (by simp) rfl rfl rfl rfl rfl
  | close g kind result hc => exact hs.closes
  | openLinked i r g hw hr hl =>
    exact hs.opens _ hl fun hkind hphase => hfinds r hr hkind (by rw [hphase]; rfl)
  | openMissing i r hw hr hl => exact hs.workerIdle _
  | skip i r hw hr =>
    rw [show s = { s with worker := .idle } from hw ▸ rfl]
    exact hs.workerIdle _
  | replyTaken answer g r kind hw hk hslot hc =>
    cases answer.awaitsAck with
    | false => exact (hs.replyTaken hw hk hslot hc).workerIdle _
    | true => exact hs.replyTaken hw hk hslot hc
  | replyQueued answer g r hw hk hslot hc =>
    cases answer.awaitsAck with
    | false => exact (hs.replyStays hw hk).workerIdle _
    | true => exact hs.replyStays hw hk
  | workerReceiveMsg g r msg hw hslot => exact hs.workerReceives hw hslot
  | workerReceiveBlock g r hw hslot => exact hs.workerBlocks hw hslot
  | workerStops | workerFinish => exact hs.workerIdle _
  | elsewhere event => exact hs

theorem Current.step {cfg : AttractionConfig} (hs : Current P s e)
    {a : ChannelAction ClientProc RestaurantEvent} (hfinds : FindsCurrentVisit (s, e) a)
    (hstep : ReplyChannel.ChannelStep P s a t)
    (hfollow : e.follow P.clientPID cfg s a t = some e') : Current P t e' := by
  cases a with
  | create kind =>
    obtain rfl := Option.some.inj hfollow
    cases hstep with
    | create kind hc => exact hs.create kind
  | sendAck =>
    cases hstep with
    | ackTaken g kind msg r hc hacc hslot hw =>
      simp only [follow, hc, ClientPhase.conversation, Option.some.injEq] at hfollow
      exact hfollow ▸ hs.ackTaken hc hacc hw
    | ackQueued g kind msg hc hacc hslot hw =>
      simp only [follow, hc, ClientPhase.conversation, Option.some.injEq] at hfollow
      exact hfollow ▸ hs.ackStays hc hacc hslot hw
  | _ =>
    obtain ⟨hconv, hacked⟩ := (follow_effect hfollow).2 (by simp) (by simp)
    exact (hs.step_of_quiet hfinds hstep (by simp) (by simp)).congr hconv hacked

/-- An entry that is added now repeats what the client said with its `ACK`. -/
theorem Current.agrees (hs : Current P s e) {g : ℕ} {r : Request ClientProc}
    {msg : ClientMQMessage} (hw : s.worker = .answered g r msg) (hkind : r.kind = .enter)
    (hack : msg.mType = .ack) : e.acked g = some r.memory.enteredPark := by
  obtain ⟨kind, park, hconv, hfresh⟩ := hs.serving g r (by rw [hw]; rfl) hkind
  obtain ⟨said, hsaid⟩ := Option.isSome_iff_exists.mp (hs.ackInHand g r msg hw hack)
  obtain ⟨k, hk⟩ := hs.acked g said hsaid
  obtain ⟨-, rfl⟩ := Prod.mk.inj (Option.some.inj (hconv.symm.trans hk))
  cases kind with
  | enter => rw [hsaid, hfresh rfl]
  | leave => exact absurd hack (hs.leaveAnswered g r msg park hw hkind hconv)

end Steps

theorem recordsAgree_step {P : Parties} {cfg : AttractionConfig}
    {x y : ReplyChannel ClientProc × RestaurantVisits}
    {a : ChannelAction ClientProc RestaurantEvent}
    (hx : Current P x.1 x.2 ∧ RecordsAgree P.clientPID x) (hfinds : FindsCurrentVisit x a)
    (h : (machine P cfg).step x a = some y) :
    Current P y.1 y.2 ∧ RecordsAgree P.clientPID y := by
  obtain ⟨hcurrent, hrecords⟩ := hx
  obtain ⟨hstep, hfollow⟩ := Machine.couple_step.mp h
  refine ⟨hcurrent.step hfinds (ReplyChannel.step_channel hstep) hfollow, fun entry hentry => ?_⟩
  rw [(follow_effect hfollow).1] at hentry
  obtain hold | ⟨g, r, msg, hw, hkind, hack, hacked, hpark, hlookup⟩ :=
    mem_records_conclude hentry
  · exact hrecords entry hold
  · refine Record.agrees ?_ hlookup
    rw [hacked, hpark]
    exact hcurrent.agrees hw hkind hack

theorem current_start (P : Parties) (client : ClientProc) (handler : AttractionHandler)
    (isOpen : Bool) : Current P (.init client) (start handler isOpen) where
  linked _ h := by cases h
  client _ _ h := by cases h
  created _ _ h := by cases h
  serving _ _ h := by cases h
  acked _ _ h := by cases h
  ackQueued _ _ h := by cases h
  ackInHand _ _ _ h := by cases h
  blockedFree _ _ h := by cases h
  leaveSent _ _ _ h := by cases h
  leaveBlocked _ _ _ h := by cases h
  leaveAnswered _ _ _ _ h := by cases h

/-- In every run in which the restaurant never opens the queue of an entering client for a
request from elsewhere, each entry of the client says where it was at its `ACK`, and the
restaurant bills it exactly if it waits for a bill. -/
theorem recordsAgree_of_findsCurrentVisit (P : Parties) (cfg : AttractionConfig)
    (client : ClientProc) (handler : AttractionHandler) (isOpen : Bool)
    (as : List (ChannelAction ClientProc RestaurantEvent))
    (h : (machine P cfg).Meets FindsCurrentVisit (.init client, start handler isOpen) as) :
    (machine P cfg).Always (RecordsAgree P.clientPID) (.init client, start handler isOpen) as :=
  Machine.always_of_meets (I := fun x => Current P x.1 x.2 ∧ RecordsAgree P.clientPID x)
    (fun _ hx => hx.2) (fun _ _ _ hx hfinds hstep => recordsAgree_step hx hfinds hstep)
    ⟨current_start P client handler isOpen, fun _ hentry => by cases hentry⟩ h

instance (x : ReplyChannel ClientProc × RestaurantVisits)
    (a : ChannelAction ClientProc RestaurantEvent) : Decidable (FindsCurrentVisit x a) := by
  unfold FindsCurrentVisit
  split <;> infer_instance

/-- Client 7 visits the restaurant 2 from inside the park and is recorded so. -/
theorem recordsAgree_inside :
    (machine ⟨7, 2, by decide, .restaurant⟩ ⟨60, 50, 1, true, -1, -1, -1, -1⟩).Always
      (RecordsAgree 7)
      (.init (.init ⟨false, false, .h2, ⟨30, 180⟩, ⟨0, 0⟩⟩),
        start (.construct ⟨0, 50, 60, true⟩) true)
      [.remember ⟨⟨false, false, .h2, ⟨30, 180⟩, ⟨0, 0⟩⟩, true, false⟩, .create .enter, .request,
        .receive, .workerOpen 0, .workerSend (.permit true 0), .workerReceive, .sendAck,
        .workerFinish (.ok ()) 0, .close] :=
  recordsAgree_of_findsCurrentVisit ⟨7, 2, by decide, .restaurant⟩ _ _ _ true _ (by decide)

end RestaurantVisits

/-- Client 7 gives up a visit from outside, enters the park and visits the restaurant again,
which answers the first request. -/
def secondVisitRun : List (ChannelAction ClientProc RestaurantEvent) :=
  [.create .enter, .request, .receive, .clientStops .receiveTimeout, .close,
    .remember ⟨⟨false, false, .h2, ⟨30, 180⟩, ⟨0, 0⟩⟩, true, false⟩, .create .enter, .request,
    .receive, .workerOpen 0, .workerSend (.permit true 0), .workerReceive, .sendAck,
    .workerFinish (.ok ()) 0]

/-- The client confirms from inside the park and is recorded as coming from outside. -/
theorem secondVisit_recorded_outside :
    ∃ x, (RestaurantVisits.machine ⟨7, 2, by decide, .restaurant⟩
        ⟨60, 50, 1, true, -1, -1, -1, -1⟩).exec
        (.init (.init ⟨false, false, .h2, ⟨30, 180⟩, ⟨0, 0⟩⟩),
          .start (.construct ⟨0, 50, 60, true⟩) true) secondVisitRun = some x ∧
      x.2.records.map (fun entry => (entry.data.fromPark, entry.acked)) = [(false, some true)] ∧
      ¬ RestaurantVisits.RecordsAgree 7 x := by
  refine ⟨_, rfl, rfl, fun h => ?_⟩
  have hagrees := (h _ (List.mem_cons_self)).fromPark
  exact absurd hagrees (by decide)

end AmusementPark.Channel
