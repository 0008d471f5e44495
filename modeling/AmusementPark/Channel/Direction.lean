import AmusementPark.Channel.ReplyChannel

/-! # The direction of the shared reply queue

Client and worker receive from the same slot. A worker that has sent its answer
and looks for the `ACK` finds its own answer there, unless the client has taken
it already. So every message it receives comes from the client exactly when the
client's receive always runs first.
-/
namespace AmusementPark.Channel
open Library

/-- Whether the client has taken the answer of the current handshake, and the messages that
the worker has received while it waited for an `ACK`. -/
structure Handshake where
  taken : Bool
  log : List ClientMQMessage

namespace ReplyChannel
variable {κ E : Type*}

/-- The queue from which the client takes a message in this step: by its own receive, or,
while it is blocked there, from the hand of the worker. -/
def clientTakes (s : ReplyChannel κ) : ChannelAction κ E → Option ℕ
  | .receive => match s.client with
    | .requested g _ => if (s.slot g).isSome then some g else none
    | _ => none
  | .workerSend _ => match s.client, s.worker with
    | .blocked g _, .opened g' _ => if g = g' then some g else none
    | _, _ => none
  | _ => none

/-- The message that the worker gets in hand by a step. -/
def workerGets (s t : ReplyChannel κ) : Option ClientMQMessage :=
  if s.inHand.isSome then none else t.inHand

/-- The queue on which a worker looks for the `ACK` of the answer it has sent. -/
def sentTo (s : ReplyChannel κ) : Option ℕ :=
  match s.worker with
  | .sent g _ => some g
  | _ => none

def observeHandshake (h : Handshake) (s : ReplyChannel κ) (a : ChannelAction κ E)
    (t : ReplyChannel κ) : Handshake where
  taken := match a with
    | .workerSend answer => (s.clientTakes (.workerSend answer : ChannelAction κ E)).isSome
    | .receive => h.taken ||
      (s.clientTakes (.receive : ChannelAction κ E)).any fun g => decide (s.sentTo = some g)
    | _ => h.taken
  log := (s.workerGets t).toList ++ h.log

/-- The channel with its history of handshakes. -/
def handshakeMachine (κ E : Type*) (P : Parties) :
    Machine (ReplyChannel κ × Handshake) (ChannelAction κ E) :=
  (machine κ E P).observe observeHandshake

/-- Every message the worker has received while it waited for an `ACK` was sent by the
client. -/
def FromClient (P : Parties) (x : ReplyChannel κ × Handshake) : Prop :=
  ∀ msg ∈ x.2.log, msg.senderPID = P.clientPID

/-- When the worker's receive runs, the client has taken the worker's answer. -/
def ClientFirst (x : ReplyChannel κ × Handshake) (a : ChannelAction κ E) : Prop :=
  ∀ g r, a = .workerReceive → x.1.worker = .sent g r → x.2.taken = true

/-- Where the answer of the current handshake is. -/
structure Directed (P : Parties) (x : ReplyChannel κ × Handshake) : Prop where
  own : ∀ g r, x.1.worker = .sent g r → x.2.taken = false →
    ∃ msg, x.1.slot g = some msg ∧ msg.senderPID = P.workerPID
  back : ∀ g r, x.1.worker = .sent g r → x.2.taken = true →
    ∀ msg, x.1.slot g = some msg → msg.senderPID = P.clientPID

theorem directed_init (P : Parties) (memory : κ) :
    Directed P (init memory, ⟨false, []⟩) where
  own g r h := by cases h
  back g r h := by cases h

/-- Without a step of the worker or of the slots nothing changes. -/
theorem Directed.keep {P : Parties} {s t : ReplyChannel κ} {h k : Handshake}
    (hs : Directed P (s, h)) (hworker : t.worker = s.worker) (hslot : t.slot = s.slot)
    (htaken : k.taken = h.taken) : Directed P (t, k) where
  own g r hw ht := by
    dsimp only at hw ht ⊢
    rw [hslot]
    exact hs.own g r (hworker ▸ hw) (htaken ▸ ht)
  back g r hw ht := by
    dsimp only at hw ht ⊢
    rw [hslot]
    exact hs.back g r (hworker ▸ hw) (htaken ▸ ht)

/-- A worker that is not waiting in front of a queue has no answer there. -/
theorem directed_of_not_sent {P : Parties} {s : ReplyChannel κ} {h : Handshake}
    (hw : ∀ g r, s.worker ≠ .sent g r) : Directed P (s, h) where
  own g r hsent := absurd hsent (hw g r)
  back g r hsent := absurd hsent (hw g r)

theorem Directed.step {P : Parties} {s t : ReplyChannel κ} {h : Handshake}
    {a : ChannelAction κ E} (hs : Directed P (s, h)) (hstep : ChannelStep P s a t) :
    Directed P (t, observeHandshake h s a t) := by
  cases hstep with
  | remember | create | request | requestAlone | clientStops | close | skip | elsewhere =>
    exact hs.keep rfl rfl rfl
  | receiveMsg g kind msg hc hslot =>
    have htakes : s.clientTakes (.receive : ChannelAction κ E) = some g := by
      simp [clientTakes, hc, hslot]
    refine ⟨fun g' r hw ht => ?_, fun g' r hw ht msg' hmsg => ?_⟩
    · have hsent : s.sentTo = some g' := by rw [sentTo, show s.worker = .sent g' r from hw]
      simp only [observeHandshake, htakes, Option.any_some, hsent, Bool.or_eq_false_iff,
        decide_eq_false_iff_not, Option.some.injEq] at ht
      simpa [Function.update_of_ne ht.2] using hs.own g' r hw ht.1
    · obtain ⟨hg, hqueued⟩ := slot_of_taken hmsg
      have hsent : s.sentTo = some g' := by rw [sentTo, show s.worker = .sent g' r from hw]
      simp only [observeHandshake, htakes, Option.any_some, hsent, Option.some.injEq,
        hg, decide_false, Bool.or_false] at ht
      exact hs.back g' r hw ht msg' hqueued
  | receiveBlock g kind hc hslot =>
    refine hs.keep rfl rfl ?_
    simp [observeHandshake, clientTakes, hc, hslot]
  | ackTaken | openLinked | openMissing | workerReceiveMsg | workerReceiveBlock | workerStops
  | workerFinish =>
    exact directed_of_not_sent (by simp)
  | ackQueued g kind msg hc hacc hslot hw =>
    refine ⟨fun g' r hsent ht => ?_, fun g' r hsent ht msg' hmsg => ?_⟩
    · obtain ⟨own, hown, hpid⟩ := hs.own g' r hsent ht
      have hg : g' ≠ g := by
        rintro rfl
        rw [hslot] at hown
        cases hown
      exact ⟨own, by simpa [Function.update_of_ne hg] using hown, hpid⟩
    · by_cases hg : g' = g
      · subst hg
        simp only [Function.update_self, Option.some.injEq] at hmsg
        exact hmsg ▸ rfl
      · dsimp only at hmsg
        rw [Function.update_of_ne hg] at hmsg
        exact hs.back g' r hsent ht msg' hmsg
  | replyTaken answer g r kind hw hk hslot hc =>
    have htakes : s.clientTakes (.workerSend answer : ChannelAction κ E) = some g := by
      simp [clientTakes, hc, hw]
    refine ⟨fun g' r' hsent ht => ?_, fun g' r' hsent ht msg' hmsg => ?_⟩
    · simp [observeHandshake, htakes] at ht
    · cases hawaits : answer.awaitsAck with
      | false => simp [hawaits] at hsent
      | true =>
        simp only [hawaits, if_true, WorkerPhase.sent.injEq] at hsent
        dsimp only at hmsg
        rw [← hsent.1, hslot] at hmsg
        cases hmsg
  | replyQueued answer g r hw hk hslot hc =>
    have htakes : s.clientTakes (.workerSend answer : ChannelAction κ E) = none := by
      unfold clientTakes
      cases hclient : s.client with
      | blocked g' kind =>
        have hg : g' ≠ g := by
          rintro rfl
          exact hc kind hclient
        simp [hw, hg]
      | _ => rfl
    refine ⟨fun g' r' hsent ht => ?_, fun g' r' hsent ht msg' hmsg => ?_⟩
    · cases hawaits : answer.awaitsAck with
      | false => simp [hawaits] at hsent
      | true =>
        simp only [hawaits, if_true, WorkerPhase.sent.injEq] at hsent
        refine ⟨P.message answer, by simp [← hsent.1], ?_⟩
        cases answer <;> rfl
    · simp [observeHandshake, htakes] at ht

theorem worker_of_gets {s t : ReplyChannel κ} {msg : ClientMQMessage}
    (hgets : s.workerGets t = some msg) : t.worker ≠ s.worker := by
  intro hsame
  have hhand : t.inHand = s.inHand := by rw [inHand, inHand, hsame]
  cases hs : s.inHand <;> simp [workerGets, hhand, hs] at hgets

theorem inHand_of_gets {s t : ReplyChannel κ} {msg : ClientMQMessage}
    (hgets : s.workerGets t = some msg) : t.inHand ≠ none := by
  intro hnone
  simp [workerGets, hnone] at hgets

/-- The worker gets a message only by the client's send or by its own receive. -/
theorem workerGets_cases {P : Parties} {s t : ReplyChannel κ} {a : ChannelAction κ E}
    {msg : ClientMQMessage} (hstep : ChannelStep P s a t) (hgets : s.workerGets t = some msg) :
    msg = ackMsg P.clientPID ∨
      ∃ g r, a = .workerReceive ∧ s.worker = .sent g r ∧ s.slot g = some msg := by
  cases hstep with
  | remember | create | request | requestAlone | receiveMsg | receiveBlock | clientStops
  | ackQueued | close | skip | elsewhere =>
    exact absurd rfl (worker_of_gets hgets)
  | openLinked | openMissing | workerReceiveBlock | workerStops | workerFinish =>
    exact absurd rfl (inHand_of_gets hgets)
  | replyTaken answer | replyQueued answer =>
    refine absurd ?_ (inHand_of_gets hgets)
    cases answer.awaitsAck <;> simp [inHand]
  | ackTaken g kind msg' r hc hacc hslot hw =>
    left
    simpa [workerGets, inHand, hw] using hgets.symm
  | workerReceiveMsg g r msg' hw hslot =>
    right
    have hmsg : msg' = msg := by simpa [workerGets, inHand, hw] using hgets
    exact ⟨g, r, rfl, hw, hmsg ▸ hslot⟩

theorem fromClient_step {P : Parties} {x y : ReplyChannel κ × Handshake}
    {a : ChannelAction κ E} (hx : Directed P x ∧ FromClient P x) (ha : ClientFirst x a)
    (h : (handshakeMachine κ E P).step x a = some y) : Directed P y ∧ FromClient P y := by
  obtain ⟨hdir, hlog⟩ := hx
  obtain ⟨hstep, hrec⟩ := Machine.observe_step.mp h
  rcases x with ⟨s, n⟩
  rcases y with ⟨t, m⟩
  dsimp only at hstep hrec
  subst hrec
  have hchannel := step_channel hstep
  refine ⟨hdir.step hchannel, fun msg hmsg => ?_⟩
  simp only [observeHandshake, List.mem_append, Option.mem_toList] at hmsg
  obtain hnew | hold := hmsg
  · obtain rfl | ⟨g, r, haction, hw, hslot⟩ := workerGets_cases hchannel hnew
    · rfl
    · exact hdir.back g r hw (ha g r haction hw) msg hslot
  · exact hlog msg hold

/-- A worker whose receive runs first takes back its own answer. -/
theorem fromClient_broken {P : Parties} {x y : ReplyChannel κ × Handshake}
    {a : ChannelAction κ E} (hdir : Directed P x) (ha : ¬ ClientFirst x a)
    (h : (handshakeMachine κ E P).step x a = some y) : ¬ FromClient P y := by
  obtain ⟨hstep, hrec⟩ := Machine.observe_step.mp h
  rcases x with ⟨s, n⟩
  rcases y with ⟨t, m⟩
  dsimp only at hstep hrec
  subst hrec
  simp only [ClientFirst, not_forall] at ha
  obtain ⟨g, r, rfl, hw, htaken⟩ := ha
  obtain ⟨own, hown, hpid⟩ := hdir.own g r hw (by simpa using htaken)
  dsimp only at hw hown
  have hgets : s.workerGets t = some own := by
    simp only [machine, ReplyChannel.step, hw, hown, Option.some.injEq] at hstep
    subst hstep
    simp [workerGets, inHand, hw]
  intro hall
  have hclient := hall own (by simp [observeHandshake, hgets])
  exact P.distinct (hclient.symm.trans hpid)

/-- In every run of a client and a worker all messages that the worker receives for an `ACK`
come from the client exactly as long as the client has taken the worker's answer whenever the
worker's receive runs. -/
theorem fromClient_iff_clientFirst (P : Parties) (memory : κ) (as : List (ChannelAction κ E)) :
    (handshakeMachine κ E P).Always (FromClient P) (init memory, ⟨false, []⟩) as ↔
      (handshakeMachine κ E P).Meets ClientFirst (init memory, ⟨false, []⟩) as :=
  Machine.always_iff_meets (I := fun x => Directed P x ∧ FromClient P x) (fun _ h => h.2)
    (fun _ _ _ hx ha h => fromClient_step hx ha h)
    (fun _ _ _ hx ha h => fromClient_broken hx.1 ha h) as
    ⟨directed_init P memory, fun _ h => by cases h⟩

end ReplyChannel

/-- The cashier 1 answers client 7, which has signalled its request and not yet called
`ReceiveMessage`. -/
def workerFirstRun : List (ChannelAction Unit Empty) :=
  [.create .enter, .request, .workerOpen 0, .workerSend (.permit true 0), .workerReceive]

/-- The cashier receives its own permit. -/
theorem workerFirst_receives_own :
    ∃ x, (ReplyChannel.handshakeMachine Unit Empty ⟨7, 1, by decide, .cashier⟩).exec
        (.init (), ⟨false, []⟩) workerFirstRun = some x ∧
      x.2.log = [⟨1, .parkEntryPermit, .parkEntryPermit true⟩] ∧
      ¬ ReplyChannel.FromClient ⟨7, 1, by decide, .cashier⟩ x := by
  refine ⟨_, rfl, rfl, fun h => ?_⟩
  have hpid := h ⟨1, .parkEntryPermit, .parkEntryPermit true⟩ (by decide)
  exact absurd hpid (by decide)

end AmusementPark.Channel
