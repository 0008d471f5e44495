import AmusementPark.Library.Machine
import AmusementPark.Worker.LeaveSemaphore
import AmusementPark.Worker.ReplyExchange

/-! # Release tokens and the clients that take them

One leave semaphore of an attraction or of the restaurant with the successive
handlers on it and with every client that may come to wait there. A permit and
its ACK are two messages: the worker gives up on the ACK after a while, the
client does not learn of that. A token carries no mark of its round; the model
writes on it the client list of the handler that posted it.
-/
namespace AmusementPark
open Library Worker

/-- `pRegisterClient` waits for the ACK of a client, which may already be in the reply queue. -/
structure Exchange where
  pid : Pid
  acknowledged : Bool
deriving DecidableEq

/-- `permitted` are the clients with a permit that they have not answered, `entered` those that
have sent their ACK and have not left the attraction. -/
structure TokenSystem where
  object : LeaveSemaphore
  posted : List (List Pid)
  exchange : Option Exchange
  permitted : Finset Pid
  entered : Finset Pid

/-- `noAck` is every end of an exchange without an ACK, `receiveAck` reads one, writes the log
message and calls `AddClient`. An exception ends an exchange with `call .destruct`. -/
inductive TokenAction where
  | call (c : HandlerCall)
  | sendPermit (pid : Pid)
  | receiveAck (hasChild fromPark : Bool) (logged : Except Exn Unit)
  | noAck
  | ack (pid : Pid)
  | giveUp (pid : Pid)
  | wait (pid : Pid)
  | leave (pid : Pid)

namespace TokenSystem

/-- A semaphore that no handler has used yet. -/
def init : TokenSystem := ⟨.unused 0, [], none, ∅, ∅⟩

/-- The tokens after a call. Setting the semaphore to 0 takes them all away. -/
def postedBy (s : TokenSystem) (c : HandlerCall) : List (List Pid) :=
  match c, s.object.handler with
  | .construct _, _ => []
  | .startAttraction _, some h => if h.started then s.posted else []
  | .releaseClients, some h | .destruct, some h =>
    if h.released then s.posted
    else s.posted ++ List.replicate h.clientList.entries.length h.clientList.keys
  | _, _ => s.posted

/-- Inside `pRegisterClient` only an exception reaches the new handler by a call. -/
def callable (s : TokenSystem) : HandlerCall → Bool
  | .addClient .. => false
  | .destruct => true
  | _ => s.exchange.isNone

def step (s : TokenSystem) : TokenAction → Option TokenSystem
  | .call c => if s.callable c = true then (s.object.call c).map fun object =>
      { s with object := object, posted := s.postedBy c, exchange := none } else none
  | .sendPermit pid =>
    if s.exchange = none ∧ s.object.handler.any (fun h => !h.started && !h.released) = true ∧
        pid ∉ s.entered then
      some { s with exchange := some ⟨pid, false⟩, permitted := insert pid s.permitted } else none
  | .receiveAck hasChild fromPark logged => match s.exchange with
    | some ⟨pid, true⟩ => match logged with
      | .ok () => (s.object.call (.addClient pid hasChild fromPark)).map fun object =>
          { s with object := object, exchange := none }
      | .error _ => some { s with exchange := none }
    | _ => none
  | .noAck => if s.exchange.isSome then some { s with exchange := none } else none
  | .ack pid => if pid ∈ s.permitted then some { s with
      exchange := s.exchange.map fun e => if e.pid = pid then ⟨pid, true⟩ else e
      permitted := s.permitted.erase pid
      entered := insert pid s.entered } else none
  | .giveUp pid => some { s with permitted := s.permitted.erase pid }
  | .wait pid => if pid ∈ s.entered then s.object.wait.map fun object =>
      { s with object := object, posted := s.posted.tail, entered := s.entered.erase pid }
    else none
  | .leave pid => some { s with entered := s.entered.erase pid }

def machine : Machine TokenSystem TokenAction := ⟨step⟩

/-- Whoever takes a token takes one, and all there are come from a release of its own round. -/
def TakesOwn (s : TokenSystem) : TokenAction → Prop
  | .wait pid => s.posted ≠ [] ∧ ∀ clientList ∈ s.posted, pid ∈ clientList
  | _ => True

/-- Nobody enters but with an ACK that its worker still waits for and answers by `AddClient`;
a handler is constructed only after everybody has left, and a client that has entered is not
removed. -/
def Orderly (s : TokenSystem) : TokenAction → Prop
  | .call (.construct _) => s.entered = ∅
  | .call (.removeClient pid) => pid ∉ s.entered
  | .call .destruct | .noAck | .receiveAck _ _ (.error _) =>
    s.exchange.all (fun e => !e.acknowledged) = true
  | .ack pid => s.exchange.any (fun e => decide (e.pid = pid)) = true
  | _ => True

instance decidableOrderly (s : TokenSystem) : ∀ a, Decidable (s.Orderly a)
  | .call (.construct _) => inferInstanceAs (Decidable (s.entered = ∅))
  | .call (.removeClient pid) => inferInstanceAs (Decidable (pid ∉ s.entered))
  | .call .destruct | .noAck | .receiveAck _ _ (.error _) =>
    inferInstanceAs (Decidable (s.exchange.all (fun e => !e.acknowledged) = true))
  | .ack pid => inferInstanceAs (Decidable (s.exchange.any (fun e => decide (e.pid = pid)) = true))
  | .call (.addClient ..) | .call (.startAttraction _) | .call .releaseClients | .sendPermit _
  | .receiveAck _ _ (.ok _) | .giveUp _ | .wait _ | .leave _ => isTrue trivial

/-- What holds while all steps are orderly. The tokens are counted by the semaphore, an
unreleased handler finds none, and every client inside is a client of the handler, or of all
releases with tokens left. -/
structure OwnTokens (s : TokenSystem) : Prop where
  count : s.posted.length = s.object.value
  fresh : ∀ h, s.object.handler = some h → h.released = false → s.posted = []
  enrolled : ∀ h, s.object.handler = some h → h.released = false → ∀ pid ∈ s.entered,
    pid ∈ h.clientList ∨ s.exchange = some ⟨pid, true⟩
  own : ∀ clientList ∈ s.posted, ∀ pid ∈ s.entered, pid ∈ clientList
  admitting : ∀ e, s.exchange = some e → ∃ h, s.object.handler = some h ∧ h.released = false

theorem ownTokens_init : OwnTokens init where
  count := rfl
  fresh _ _ _ := rfl
  enrolled _ hh := by cases hh
  own _ hlist := by cases hlist
  admitting _ he := by cases he

theorem unread_of_idle {s : TokenSystem} (hidle : s.exchange = none) :
    s.exchange.all (fun e => !e.acknowledged) = true := by
  rw [hidle]
  rfl

/-- An exchange that ends without an unread ACK leaves every client inside enrolled. -/
theorem OwnTokens.enrolled_of_unread {s : TokenSystem} (hs : s.OwnTokens)
    (hunread : s.exchange.all (fun e => !e.acknowledged) = true) {h : AttractionHandler}
    (hh : s.object.handler = some h) (hr : h.released = false) {pid : Pid}
    (hpid : pid ∈ s.entered) : pid ∈ h.clientList := by
  obtain hmem | hexchange := hs.enrolled h hh hr pid hpid
  · exact hmem
  · rw [hexchange] at hunread
    cases hunread

theorem OwnTokens.endExchange {s : TokenSystem} (hs : s.OwnTokens)
    (hunread : s.exchange.all (fun e => !e.acknowledged) = true) :
    OwnTokens { s with exchange := none } where
  count := hs.count
  fresh := hs.fresh
  enrolled _ hh hr _ hpid := .inl (hs.enrolled_of_unread hunread hh hr hpid)
  own := hs.own
  admitting _ he := by cases he

/-- A call that keeps the tokens, the client list and the flag. -/
theorem OwnTokens.replace {s : TokenSystem} (hs : s.OwnTokens)
    (hunread : s.exchange.all (fun e => !e.acknowledged) = true) {h k : AttractionHandler}
    (hh : s.object.handler = some h) (hreleased : k.released = h.released)
    (hlist : ∀ pid ∈ s.entered, pid ∈ h.clientList → pid ∈ k.clientList) :
    OwnTokens { s with object := { s.object with handler := some k }, exchange := none } where
  count := hs.count
  fresh k' hk' hr := by
    obtain rfl := Option.some.inj hk'
    exact hs.fresh h hh (hreleased ▸ hr)
  enrolled k' hk' hr pid hpid := by
    obtain rfl := Option.some.inj hk'
    exact .inl (hlist pid hpid (hs.enrolled_of_unread hunread hh (hreleased ▸ hr) hpid))
  own := hs.own
  admitting _ he := by cases he

/-- `ReleaseClients` posts a token for each client of the handler. -/
theorem OwnTokens.release {s : TokenSystem} (hs : s.OwnTokens)
    (hunread : s.exchange.all (fun e => !e.acknowledged) = true) {h : AttractionHandler}
    (hh : s.object.handler = some h) {T : LeaveSemaphore} (hT : s.object.release h = some T)
    {handler : Option AttractionHandler} (hhandler : handler = none ∨ handler = T.handler) :
    OwnTokens { s with
      object := { T with handler := handler }
      posted := if h.released then s.posted
        else s.posted ++ List.replicate h.clientList.entries.length h.clientList.keys
      exchange := none } := by
  obtain ⟨hT', hvalue⟩ := LeaveSemaphore.release_eq_some hT
  have hafter (k : AttractionHandler) (hk : handler = some k) : k.released = true := by
    obtain hnone | hsame := hhandler
    · rw [hnone] at hk
      cases hk
    · rw [hsame, hT', Option.some.injEq] at hk
      rw [← hk]
      exact h.releaseClients_released
  refine ⟨?_, fun k hk hr => ?_, fun k hk hr => ?_, fun list hlist pid hpid => ?_,
    fun _ he => (by cases he)⟩
  · dsimp only
    rw [hvalue, ← hs.count]
    split <;> simp
  · rw [hafter k hk] at hr
    cases hr
  · rw [hafter k hk] at hr
    cases hr
  · dsimp only at hlist hpid
    cases hr : h.released with
    | true =>
      rw [if_pos hr] at hlist
      exact hs.own list hlist pid hpid
    | false =>
      have hmem := hs.enrolled_of_unread hunread hh hr hpid
      simp only [hr, Bool.false_eq_true, if_false, hs.fresh h hh hr, List.nil_append] at hlist
      rw [List.eq_of_mem_replicate hlist]
      exact hmem

/-- Calls keep the law. -/
theorem OwnTokens.call {s t : TokenSystem} (hs : s.OwnTokens) {c : HandlerCall}
    (ha : s.Orderly (.call c)) (h : s.step (.call c) = some t) : t.OwnTokens := by
  simp only [step, Option.ite_none_right_eq_some, Option.map_eq_some_iff] at h
  obtain ⟨hcallable, T, hT, rfl⟩ := h
  have hunread (hnone : s.exchange.isNone = true) :
      s.exchange.all (fun e => !e.acknowledged) = true :=
    unread_of_idle (Option.isNone_iff_eq_none.mp hnone)
  cases c with
  | construct data =>
    simp only [LeaveSemaphore.call, Option.ite_none_left_eq_some, Option.some.injEq] at hT
    obtain ⟨-, rfl⟩ := hT
    refine ⟨rfl, fun _ _ _ => rfl, fun k _ _ pid hpid => ?_, fun _ hlist => (by cases hlist),
      fun _ he => (by cases he)⟩
    rw [show s.entered = ∅ from ha] at hpid
    cases hpid
  | addClient => cases hcallable
  | removeClient pid =>
    obtain ⟨h, hh, rfl⟩ := Option.map_eq_some_iff.mp hT
    refine hs.replace (hunread hcallable) hh rfl fun pid' hpid' hmem => ?_
    have hne : pid' ≠ pid := fun heq => ha (heq ▸ hpid')
    simpa [hne] using hmem
  | startAttraction now =>
    obtain ⟨h, hh, rfl⟩ := Option.map_eq_some_iff.mp hT
    have hkeep := hs.replace (hunread hcallable) hh (h.startAttraction_released now) (by simp)
    cases hstarted : h.started with
    | true => simpa only [postedBy, hh, hstarted, if_true] using hkeep
    | false =>
      simp only [postedBy, hh, hstarted, Bool.false_eq_true, if_false]
      exact ⟨rfl, fun _ _ _ => rfl, hkeep.enrolled, fun _ hlist => (by cases hlist),
        hkeep.admitting⟩
  | releaseClients =>
    obtain ⟨h, hh, hT⟩ := Option.bind_eq_some_iff.mp hT
    have := hs.release (hunread hcallable) hh hT (.inr rfl)
    simpa only [postedBy, hh] using this
  | destruct =>
    obtain ⟨h, hh, hT⟩ := Option.bind_eq_some_iff.mp hT
    obtain ⟨U, hU, rfl⟩ := Option.map_eq_some_iff.mp hT
    have := hs.release ha hh hU (.inl rfl)
    simpa only [postedBy, hh] using this

/-- A registration that ends with `AddClient`. -/
theorem OwnTokens.register {s : TokenSystem} (hs : s.OwnTokens) {pid : Pid}
    (hexchange : s.exchange = some ⟨pid, true⟩) {hasChild fromPark : Bool} {T : LeaveSemaphore}
    (hT : s.object.call (.addClient pid hasChild fromPark) = some T) :
    OwnTokens { s with object := T, exchange := none } := by
  obtain ⟨h, hh, rfl⟩ := Option.map_eq_some_iff.mp hT
  have hreleased := h.addClient_released pid hasChild fromPark
  refine ⟨hs.count, fun k hk hr => ?_, fun k hk hr q hq => .inl ?_, hs.own,
    fun _ he => (by cases he)⟩
  · obtain rfl := Option.some.inj hk
    exact hs.fresh h hh (hreleased ▸ hr)
  · obtain rfl := Option.some.inj hk
    apply AttractionHandler.mem_addClient_clientList.mpr
    obtain hin | hsame := hs.enrolled h hh (hreleased ▸ hr) q hq
    · exact .inr hin
    · rw [hexchange, Option.some.injEq, Exchange.mk.injEq] at hsame
      exact .inl hsame.1.symm

/-- An ACK that the worker still waits for. -/
theorem OwnTokens.enter {s : TokenSystem} (hs : s.OwnTokens) {pid : Pid} {e : Exchange}
    (hexchange : s.exchange = some e) (hpid : e.pid = pid) (permitted : Finset Pid) :
    OwnTokens { s with
      exchange := some ⟨pid, true⟩, permitted := permitted, entered := insert pid s.entered } := by
  obtain ⟨h, hh, hr⟩ := hs.admitting e hexchange
  have hnone := hs.fresh h hh hr
  refine ⟨hs.count, hs.fresh, fun k hk hkr q hq => ?_, fun list hlist => ?_, fun _ _ => ⟨h, hh, hr⟩⟩
  · obtain rfl | hq := Finset.mem_insert.mp hq
    · exact .inr rfl
    · obtain hin | hsame := hs.enrolled k hk hkr q hq
      · exact .inl hin
      · rw [hexchange, Option.some.injEq] at hsame
        rw [← hpid, hsame]
        exact .inr rfl
  · dsimp only at hlist
    rw [hnone] at hlist
    cases hlist

/-- A client inside takes a token, which its own handler has posted. -/
theorem OwnTokens.wait {s : TokenSystem} (hs : s.OwnTokens) {pid : Pid} (hpid : pid ∈ s.entered)
    {T : LeaveSemaphore} (hT : s.object.wait = some T) :
    OwnTokens { s with object := T, posted := s.posted.tail, entered := s.entered.erase pid } ∧
      s.TakesOwn (.wait pid) := by
  simp only [LeaveSemaphore.wait, Option.ite_none_right_eq_some, Option.some.injEq] at hT
  obtain ⟨hpos, rfl⟩ := hT
  have hcount := hs.count
  refine ⟨⟨?_, fun h hh hr => ?_, fun h hh hr q hq => ?_, fun list hlist q hq => ?_,
    hs.admitting⟩, ?_, fun list hlist => hs.own list hlist pid hpid⟩
  · rw [List.length_tail, hcount]
  · rw [hs.fresh h hh hr]
    rfl
  · exact hs.enrolled h hh hr q (Finset.mem_of_mem_erase hq)
  · exact hs.own list (List.mem_of_mem_tail hlist) q (Finset.mem_of_mem_erase hq)
  · intro hnil
    rw [hnil, List.length_nil] at hcount
    omega

theorem OwnTokens.step {s t : TokenSystem} (hs : s.OwnTokens) {a : TokenAction}
    (ha : s.Orderly a) (h : s.step a = some t) : t.OwnTokens ∧ s.TakesOwn a := by
  cases a with
  | call c => exact ⟨hs.call ha h, trivial⟩
  | sendPermit pid =>
    simp only [TokenSystem.step, Option.ite_none_right_eq_some, Option.some.injEq] at h
    obtain ⟨⟨hnone, hhandler, -⟩, rfl⟩ := h
    obtain ⟨k, hk, hfresh⟩ := (Option.any_eq_true _ _).mp hhandler
    simp only [Bool.and_eq_true, Bool.not_eq_true'] at hfresh
    exact ⟨⟨hs.count, hs.fresh,
      fun h hh hr q hq => .inl (hs.enrolled_of_unread (unread_of_idle hnone) hh hr hq), hs.own,
      fun _ _ => ⟨k, hk, hfresh.2⟩⟩, trivial⟩
  | receiveAck hasChild fromPark logged =>
    rcases hexchange : s.exchange with _ | ⟨pid, _ | _⟩
    · simp [TokenSystem.step, hexchange] at h
    · simp [TokenSystem.step, hexchange] at h
    · cases logged with
      | ok u =>
        simp only [TokenSystem.step, hexchange, Option.map_eq_some_iff] at h
        obtain ⟨T, hT, rfl⟩ := h
        exact ⟨hs.register hexchange hT, trivial⟩
      | error e =>
        simp only [TokenSystem.step, hexchange, Option.some.injEq] at h
        exact ⟨h ▸ hs.endExchange ha, trivial⟩
  | noAck =>
    simp only [TokenSystem.step, Option.ite_none_right_eq_some, Option.some.injEq] at h
    obtain ⟨-, rfl⟩ := h
    exact ⟨hs.endExchange ha, trivial⟩
  | ack pid =>
    simp only [TokenSystem.step, Option.ite_none_right_eq_some, Option.some.injEq] at h
    obtain ⟨-, rfl⟩ := h
    obtain ⟨e, he, hpid⟩ := (Option.any_eq_true _ _).mp ha
    have hpid := of_decide_eq_true hpid
    have := hs.enter he hpid (s.permitted.erase pid)
    exact ⟨by simpa [he, hpid] using this, trivial⟩
  | giveUp pid =>
    obtain rfl := Option.some.inj h
    exact ⟨⟨hs.count, hs.fresh, hs.enrolled, hs.own, hs.admitting⟩, trivial⟩
  | wait pid =>
    simp only [TokenSystem.step, Option.ite_none_right_eq_some, Option.map_eq_some_iff] at h
    obtain ⟨hpid, T, hT, rfl⟩ := h
    exact hs.wait hpid hT
  | leave pid =>
    obtain rfl := Option.some.inj h
    exact ⟨⟨hs.count, hs.fresh,
      fun k hk hr q hq => hs.enrolled k hk hr q (Finset.mem_of_mem_erase hq),
      fun list hlist q hq => hs.own list hlist q (Finset.mem_of_mem_erase hq),
      hs.admitting⟩, trivial⟩

/-- In a run with orderly steps only, every token is taken by a client of the handler that has
posted it. -/
theorem takesOwn_of_orderly {as : List TokenAction} (has : machine.Meets Orderly init as) :
    machine.Meets TakesOwn init as :=
  Machine.Meets.of_invariant (I := OwnTokens) (fun _ _ _ hs ha h => hs.step ha h) ownTokens_init
    has

/-- The handlers of the runs below. -/
def someRound : AttractionHandlerData := ⟨20, 20, 30, false⟩

/-- Two rounds in which everybody enters and leaves in time. -/
theorem twoRounds_takeOwn : machine.Meets TakesOwn init
    [.call (.construct someRound), .sendPermit 7, .ack 7, .receiveAck false true (.ok ()),
      .call (.startAttraction 0), .call .destruct, .wait 7, .call (.construct someRound),
      .sendPermit 8, .ack 8, .receiveAck true true (.ok ()), .call (.startAttraction 30),
      .call .releaseClients, .wait 8] :=
  takesOwn_of_orderly (by decide)

/-- The ACK of client 7 comes after the worker has given up on it. -/
def lateAckRun : List TokenAction :=
  [.call (.construct someRound), .sendPermit 7, .noAck, .ack 7, .sendPermit 8, .ack 8,
    .receiveAck false true (.ok ()), .call (.startAttraction 0), .call .releaseClients]

/-- Client 7 has not come to its `Wait` when its round is released and the next one begins. -/
def slowClientRun : List TokenAction :=
  [.call (.construct someRound), .sendPermit 7, .ack 7, .receiveAck false true (.ok ()),
    .call (.startAttraction 0), .call .destruct, .call (.construct someRound), .sendPermit 8,
    .ack 8, .receiveAck false true (.ok ()), .call (.startAttraction 30), .call .releaseClients]

/-- In both runs client 7 takes the only token, which was posted for client 8. -/
theorem strangers_takeTokens :
    (∃ s t, machine.exec init lateAckRun = some s ∧ s.posted = [[8]] ∧
      s.step (.wait 7) = some t ∧ 8 ∈ t.entered ∧ t.step (.wait 8) = none) ∧
    ∃ s t, machine.exec init slowClientRun = some s ∧ s.posted = [[8]] ∧
      s.step (.wait 7) = some t ∧ 8 ∈ t.entered ∧ t.step (.wait 8) = none :=
  ⟨⟨_, _, rfl, rfl, rfl, by decide, rfl⟩, ⟨_, _, rfl, rfl, rfl, by decide, rfl⟩⟩

end TokenSystem
end AmusementPark
