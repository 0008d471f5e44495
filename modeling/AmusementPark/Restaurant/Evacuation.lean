import AmusementPark.Restaurant.Admission

/-! # Evacuation of the clients in the restaurant

`HandleSigint` reaches the clients from outside of the installed round. It misses
those of a round that is being filled, or that has been dropped before their
exits were handled, and the one whose `ACK` has just been received.
-/
namespace AmusementPark.Restaurant
open Library Library.Outcome Worker

/-! ## The admitted clients -/

/-- The `ACK` of a client from outside has been received, and `AddClient` has not been called. -/
def RegisterPoint.pending : RegisterPoint → Bool
  | .acked content | .adding content => !content.fromPark
  | .begin | .opening _ _ | .sending _ _ | .receiving _ | .catching => false

namespace AdmissionPoint

def pending : AdmissionPoint → Option Pid
  | .registering _ message p => if p.pending then some message.senderPID else none
  | _ => none

/-- The round that is being filled. -/
def newHandler : AdmissionPoint → Option AttractionHandler
  | .filling newHandler | .registering newHandler _ _ | .installing newHandler => some newHandler
  | _ => none

def newOutsiders (p : AdmissionPoint) : List Pid := p.newHandler.elim [] outsiders

end AdmissionPoint

namespace AdmissionSystem

/-- The clients from outside whose `ACK` has been received and whose exit has not been handled. -/
def recordAdmissions (admitted : Finset Pid) (s : AdmissionSystem) :
    AdmissionAction → AdmissionSystem → Finset Pid
  | .run x, _ => match s.point with
    | .registering _ message (.receiving content) =>
      if x.reply.acknowledged = .ok true ∧ content.fromPark = false then
        insert message.senderPID admitted else admitted
    | .dispatching clientMsg =>
      if clientMsg.mType = .exitRestaurant then admitted.erase clientMsg.senderPID else admitted
    | _ => admitted
  | .sigUsr1 (.error _), _ | .sigUsr2 (.error _), _ => match s.point with
    | .dispatching clientMsg =>
      if clientMsg.mType = .exitRestaurant then admitted.erase clientMsg.senderPID else admitted
    | _ => admitted
  | .sigUsr1 (.ok ()), _ | .sigUsr2 (.ok ()), _ | .closePark, _ | .sigInt, _ => admitted

def admittingMachine (cfg : AttractionConfig) :
    Machine (AdmissionSystem × Finset Pid) AdmissionAction :=
  (machine cfg).observe recordAdmissions

/-- A `SIGINT` during `Run` is passed on to every admitted client. -/
def EvacuationReaches (p : AdmissionSystem × Finset Pid) : AdmissionAction → Prop
  | .sigInt => p.1.point ≠ .stopped → ∀ pid ∈ p.2, pid ∈ p.1.proc.handleSigint
  | _ => True

/-- A client from outside whose `ACK` has been received is added to the round, no exception comes
in between, the round is installed before the next `SIGINT`, and it is not dropped before the
clients from outside have left it. -/
def AdmissionUndisturbed (p : AdmissionSystem × Finset Pid) : AdmissionAction → Prop
  | .sigInt => p.1.point.pending = none ∧ p.1.point.newOutsiders = []
  | .sigUsr1 (.error _) | .sigUsr2 (.error _) =>
    ∀ pid ∈ p.1.point.pending, pid ∈ p.1.point.newOutsiders
  | .run x => match p.1.point with
    | .dropping => p.1.proc.handleSigint = []
    | .registering newHandler message (.acked content) => content.fromPark = false →
        x.reply.logged = .ok () ∨ message.senderPID ∈ outsiders newHandler
    | .registering newHandler message (.adding content) => content.fromPark = false →
        message.senderPID ∈ newHandler.clientList → message.senderPID ∈ outsiders newHandler
    | _ => True
  | .sigUsr1 (.ok ()) | .sigUsr2 (.ok ()) | .closePark => True

instance decidableEvacuationReaches (p : AdmissionSystem × Finset Pid) :
    ∀ a, Decidable (EvacuationReaches p a)
  | .sigInt => inferInstanceAs (Decidable (_ → _))
  | .run _ | .closePark | .sigUsr1 _ | .sigUsr2 _ => isTrue trivial

instance decidableAdmissionUndisturbed (p : AdmissionSystem × Finset Pid) :
    ∀ a, Decidable (AdmissionUndisturbed p a)
  | .sigInt => inferInstanceAs (Decidable (_ ∧ _))
  | .sigUsr1 (.error _) | .sigUsr2 (.error _) => inferInstanceAs (Decidable (∀ pid ∈ _, _))
  | .run _ => by
    unfold AdmissionUndisturbed
    dsimp only
    split <;> infer_instance
  | .sigUsr1 (.ok ()) | .sigUsr2 (.ok ()) | .closePark => isTrue trivial

/-- The client is in the installed round or in the one being filled, or it is just being added. -/
def Holds (s : AdmissionSystem) (pid : Pid) : Prop :=
  pid ∈ s.proc.handleSigint ∨ pid ∈ s.point.newOutsiders ∨ s.point.pending = some pid

/-- A round is filled only while none is installed. -/
def FillsAlone (s : AdmissionSystem) : Prop :=
  s.point.newHandler.isSome = true → s.proc.handler = none

/-- During `Run` the restaurant holds every admitted client. -/
def AdmittedHeld (p : AdmissionSystem × Finset Pid) : Prop :=
  p.1.FillsAlone ∧ (p.1.point ≠ .stopped → ∀ pid ∈ p.2, p.1.Holds pid)

end AdmissionSystem

/-! ## What `pRegisterClient` does to the clients of a round -/

theorem mem_outsiders {pid : Pid} {h : AttractionHandler} :
    pid ∈ outsiders h ↔ ∃ data ∈ h.clientList.lookup pid, data.fromPark = false := by
  simp [outsiders, ← AList.mem_lookup_iff]

theorem handleSigint_congr {q r : RestaurantProc}
    (h : q.handler.map (·.clientList) = r.handler.map (·.clientList)) :
    q.handleSigint = r.handleSigint := by
  cases hq : q.handler <;> cases hr : r.handler <;>
    simp_all [RestaurantProc.handleSigint, outsiders]

theorem mem_handleSigint_pRemoveClient {pid q : Pid} {r : RestaurantProc} :
    q ∈ (RestaurantProc.pRemoveClient pid r).handleSigint ↔ q ∈ r.handleSigint ∧ pid ≠ q := by
  cases hh : r.handler with
  | none => simp [RestaurantProc.handleSigint, RestaurantProc.pRemoveClient, hh]
  | some h =>
    simp only [RestaurantProc.handleSigint, RestaurantProc.pRemoveClient, hh, Option.map_some,
      Option.elim_some, mem_outsiders, AttractionHandler.removeClient_clientList]
    by_cases heq : pid = q
    · subst heq
      simp
    · simp [AList.lookup_erase_ne (Ne.symm heq), heq]

theorem mem_outsiders_addClient {pid q : Pid} {hasChild fromPark : Bool} {h : AttractionHandler}
    (hq : q ∈ outsiders h ∨ q = pid ∧ fromPark = false ∧
      (pid ∈ h.clientList → pid ∈ outsiders h)) :
    q ∈ outsiders (h.addClient pid hasChild fromPark).2 := by
  simp only [mem_outsiders, AttractionHandler.addClient_lookup] at hq ⊢
  obtain ⟨data, hdata, hout⟩ | ⟨rfl, hpark, hkept⟩ := hq
  · have hold : ¬ (q = pid ∧ pid ∉ h.clientList) := by
      rintro ⟨rfl, hnew⟩
      simp [AList.lookup_eq_none.mpr hnew] at hdata
    rw [if_neg hold]
    exact ⟨data, hdata, hout⟩
  · by_cases hmem : q ∈ h.clientList
    · simpa [hmem] using hkept hmem
    · simp [hmem, hpark]

/-- The client is in the round, or it is the sender and is just being added. -/
def RegisterPoint.holding (message : RestaurantMQMessage) (pid : Pid) :
    Post AttractionHandler RegisterPoint Bool where
  next h p := pid ∈ outsiders h ∨ p.pending = true ∧ message.senderPID = pid
  returns h _ := pid ∈ outsiders h
  throws h := pid ∈ outsiders h
  crashes h := pid ∈ outsiders h

section Register
variable {isOpen : Bool} {cfg : AttractionConfig} {message : RestaurantMQMessage}
  {x : ReplyOutcome} {h : AttractionHandler} {pid : Pid}

theorem RegisterPoint.step_of_added (p : RegisterPoint) (hpid : pid ∈ outsiders h) :
    (p.step isOpen cfg message x h).Satisfies (holding message pid) := by
  cases p with
  | begin =>
    cases hcontent : message.content with
    | emptyMessage => simpa [step, hcontent, holding] using hpid
    | enterRestaurant content =>
      simp only [step, hcontent]
      split
      · exact hpid
      · exact .inl hpid
  | opening content allowed | sending content allowed =>
    simp [step, satisfies_call, holding, hpid]
  | receiving content => simp [step, satisfies_call, holding, hpid]
  | acked content => simp [step, satisfies_call, holding, hpid]
  | adding content => exact mem_outsiders_addClient (.inl hpid)
  | catching => simp [step, satisfies_call, holding, hpid]

/-- A client from outside whose `ACK` has been received is on its way into the round. -/
theorem RegisterPoint.step_of_admitted {p : RegisterPoint}
    (hp : p.pending = true ∨ (∃ content, p = .receiving content ∧ content.fromPark = false) ∧
      x.acknowledged = .ok true)
    (hlogged : ∀ content, p = .acked content → content.fromPark = false →
      x.logged = .ok () ∨ message.senderPID ∈ outsiders h)
    (hnew : ∀ content, p = .adding content → content.fromPark = false →
      message.senderPID ∈ h.clientList → message.senderPID ∈ outsiders h) :
    (p.step isOpen cfg message x h).Satisfies (holding message message.senderPID) := by
  obtain hpending | ⟨⟨content, rfl, hout⟩, hack⟩ := hp
  · cases p with
    | begin | opening | sending | receiving | catching => cases hpending
    | acked content =>
      have hout : content.fromPark = false := by simpa [pending] using hpending
      simp only [step, satisfies_call]
      refine ⟨fun e he => ?_, fun _ _ => .inr ⟨hpending, rfl⟩⟩
      obtain hok | hmem := hlogged content rfl hout
      · simp [hok] at he
      · exact hmem
    | adding content =>
      have hout : content.fromPark = false := by simpa [pending] using hpending
      exact mem_outsiders_addClient (.inr ⟨rfl, hout, hnew content rfl hout⟩)
  · simp only [step, hack, call]
    exact .inr ⟨by simp [pending, hout], rfl⟩

end Register

namespace AdmissionSystem
variable {cfg : AttractionConfig} {s t : AdmissionSystem} {admitted : Finset Pid} {pid : Pid}

theorem Holds.installed (h : s.Holds pid) (hnew : s.point.newOutsiders = [])
    (hpending : s.point.pending = none) : pid ∈ s.proc.handleSigint := by
  simpa [Holds, hnew, hpending] using h

/-! ## A round is filled only while none is installed -/

theorem FillsAlone.raise (hs : s.FillsAlone) : s.raise.FillsAlone := by
  intro hnew
  cases hpoint : s.point with
  | registering newHandler message p =>
    simpa [AdmissionSystem.raise, hpoint] using hs (by simp [hpoint, AdmissionPoint.newHandler])
  | _ => simp [AdmissionSystem.raise, hpoint, AdmissionPoint.newHandler] at hnew

theorem FillsAlone.stepRun {x : AdmissionOutcome} (hs : s.FillsAlone)
    (h : s.stepRun cfg x = some t) : t.FillsAlone := by
  intro hnew
  have hpointNone : s.point.newHandler.isSome = true → s.proc.handler = none := hs
  cases hpoint : s.point with
  | filling newHandler =>
    have hnone := hs (by simp [hpoint, AdmissionPoint.newHandler])
    simp only [AdmissionSystem.stepRun, hpoint] at h
    split at h <;> obtain rfl := Option.some.inj h <;> exact hnone
  | registering newHandler message p =>
    have hnone := hs (by simp [hpoint, AdmissionPoint.newHandler])
    simp only [AdmissionSystem.stepRun, hpoint, Option.some.injEq] at h
    subst h
    unfold follow
    split <;> exact hnone
  | deciding =>
    simp only [AdmissionSystem.stepRun, hpoint, Option.some.injEq] at h
    subst h
    by_cases hbegin : (s.proc.handler.isNone && !s.proc.paused && !s.proc.evac) = true
    · simp only [Bool.and_eq_true, Option.isNone_iff_eq_none] at hbegin
      exact hbegin.1.1
    · simp [hbegin, AdmissionPoint.newHandler] at hnew
  | receiving | announcing =>
    simp only [AdmissionSystem.stepRun, hpoint] at h
    split at h <;> obtain rfl := Option.some.inj h <;> cases hnew
  | loopHead | checking | installing =>
    simp only [AdmissionSystem.stepRun, hpoint, Option.some.injEq] at h
    subst h
    split at hnew <;> cases hnew
  | dropping | dispatching | starting =>
    simp only [AdmissionSystem.stepRun, hpoint, Option.some.injEq] at h
    subst h
    cases hnew
  | stopped => simp [AdmissionSystem.stepRun, hpoint] at h

theorem FillsAlone.step {a : AdmissionAction} (hs : s.FillsAlone) (h : s.step cfg a = some t) :
    t.FillsAlone := by
  cases a with
  | run x => exact hs.stepRun h
  | closePark | sigInt =>
    obtain rfl := Option.some.inj h
    exact hs
  | sigUsr1 logged => cases logged with
    | ok _ =>
      obtain rfl := Option.some.inj h
      intro hnew
      simp [RestaurantProc.closeAttraction, hs hnew]
    | error e =>
      obtain rfl := Option.some.inj h
      exact FillsAlone.raise hs
  | sigUsr2 logged => cases logged with
    | ok _ =>
      obtain rfl := Option.some.inj h
      exact hs
    | error e =>
      obtain rfl := Option.some.inj h
      exact FillsAlone.raise hs

/-! ## Every step keeps the admitted clients -/

theorem handleSigint_follow (s : AdmissionSystem) (message : RestaurantMQMessage)
    (p : RegisterPoint) (o : Outcome AttractionHandler RegisterPoint Bool Exn) :
    (s.follow message p o).proc.handler = s.proc.handler := by
  unfold follow
  split <;> rfl

theorem mem_newOutsiders_thrown {newHandler : AttractionHandler} {message : RestaurantMQMessage}
    {p : RegisterPoint} (hpid : pid ∈ outsiders newHandler)
    (h : AdmissionPoint.thrown newHandler message p ≠ .stopped) :
    pid ∈ (AdmissionPoint.thrown newHandler message p).newOutsiders := by
  unfold AdmissionPoint.thrown at h ⊢
  cases hp : p.handler with
  | none => simp [hp] at h
  | some q => exact hpid

/-- `Run` follows the step of `pRegisterClient`. -/
theorem holds_follow {message : RestaurantMQMessage} {p : RegisterPoint}
    {o : Outcome AttractionHandler RegisterPoint Bool Exn}
    (ho : o.Satisfies (RegisterPoint.holding message pid))
    (hrunning : (s.follow message p o).point ≠ .stopped) : (s.follow message p o).Holds pid := by
  right
  obtain ⟨h, flow⟩ := o
  cases flow with
  | next q => exact ho.imp_right fun h => by simp [follow, AdmissionPoint.pending, h.1, h.2]
  | returns r => cases r <;> exact .inl ho
  | throws e => exact .inl (mem_newOutsiders_thrown ho hrunning)
  | crashes => exact .inl (mem_newOutsiders_thrown ho hrunning)

/-- The other steps of `Run`. -/
theorem holds_run {x : AdmissionOutcome} (hs : s.FillsAlone)
    (hpid : pid ∈ s.proc.handleSigint ∨ pid ∈ s.point.newOutsiders)
    (hpoint : ∀ newHandler message p, s.point ≠ .registering newHandler message p)
    (hexit : ∀ clientMsg, s.point = .dispatching clientMsg → clientMsg.mType = .exitRestaurant →
      clientMsg.senderPID ≠ pid)
    (hdrop : s.point = .dropping → s.proc.handleSigint = [])
    (h : s.stepRun cfg x = some t) (hrunning : t.point ≠ .stopped) : t.Holds pid := by
  have hinstalled (hnew : s.point.newHandler = none) : pid ∈ s.proc.handleSigint :=
    hpid.resolve_right (by simp [AdmissionPoint.newOutsiders, hnew])
  have hfilled (newHandler : AttractionHandler) (hnew : s.point.newHandler = some newHandler) :
      pid ∈ outsiders newHandler := by
    simpa [RestaurantProc.handleSigint, hs (by rw [hnew]; rfl), AdmissionPoint.newOutsiders, hnew]
      using hpid
  cases hs' : s.point with
  | registering newHandler message p => exact absurd hs' (hpoint newHandler message p)
  | filling newHandler =>
    have hnew := hfilled newHandler (by rw [hs']; rfl)
    simp only [stepRun, hs'] at h
    split at h <;> obtain rfl := Option.some.inj h <;> exact .inr (.inl hnew)
  | installing newHandler =>
    have hnew := hfilled newHandler (by rw [hs']; rfl)
    have hfull : newHandler.isEmpty = false := by
      obtain ⟨data, hdata, -⟩ := mem_outsiders.mp hnew
      have hentries := List.ne_nil_of_mem (AList.mem_lookup_iff.mp hdata)
      simpa [AttractionHandler.isEmpty] using hentries
    simp only [stepRun, hs', hfull, Bool.false_eq_true, if_false, Option.some.injEq] at h
    subst h
    exact .inl hnew
  | dispatching clientMsg =>
    have hold := hinstalled (by rw [hs']; rfl)
    simp only [stepRun, hs', Option.some.injEq] at h
    subst h
    left
    by_cases hm : clientMsg.mType = .exitRestaurant
    · rw [RestaurantProc.pHandleRestaurantMQ_exit clientMsg x.reply s.proc hm]
      exact mem_handleSigint_pRemoveClient.mpr ⟨hold, hexit clientMsg hs' hm⟩
    · rw [RestaurantProc.handleSigint,
        RestaurantProc.pHandleRestaurantMQ_other clientMsg x.reply s.proc hm]
      exact hold
  | dropping =>
    have hold := hinstalled (by rw [hs']; rfl)
    simp [hdrop hs'] at hold
  | starting =>
    have hold := hinstalled (by rw [hs']; rfl)
    simp only [stepRun, hs', Option.some.injEq] at h
    subst h
    left
    rw [handleSigint_congr (r := s.proc)]
    · exact hold
    · cases hh : s.proc.handler <;> simp
  | loopHead | checking | receiving | deciding | announcing =>
    have hold := hinstalled (by rw [hs']; rfl)
    simp only [stepRun, hs'] at h
    (repeat' split at h) <;> obtain rfl := Option.some.inj h <;> exact .inl hold
  | stopped => simp [stepRun, hs'] at h

theorem mem_recordAdmissions {x : AdmissionOutcome}
    (h : pid ∈ recordAdmissions admitted s (.run x) t) :
    (pid ∈ admitted ∧ ∀ clientMsg, s.point = .dispatching clientMsg →
      clientMsg.mType = .exitRestaurant → clientMsg.senderPID ≠ pid) ∨
    ∃ newHandler message content,
      s.point = .registering newHandler message (.receiving content) ∧
      message.senderPID = pid ∧ x.reply.acknowledged = .ok true ∧ content.fromPark = false := by
  cases hpoint : s.point with
  | dispatching clientMsg =>
    left
    simp only [recordAdmissions, hpoint] at h
    by_cases hm : clientMsg.mType = .exitRestaurant
    · rw [if_pos hm, Finset.mem_erase] at h
      refine ⟨h.2, fun msg hmsg _ => ?_⟩
      rw [← AdmissionPoint.dispatching.inj hmsg]
      exact h.1.symm
    · rw [if_neg hm] at h
      refine ⟨h, fun msg hmsg hexit => absurd hexit ?_⟩
      rw [← AdmissionPoint.dispatching.inj hmsg]
      exact hm
  | registering newHandler message p =>
    cases p with
    | receiving content =>
      by_cases hack : x.reply.acknowledged = .ok true ∧ content.fromPark = false
      · simp only [recordAdmissions, hpoint, if_pos hack, Finset.mem_insert] at h
        obtain rfl | hold := h
        · exact .inr ⟨newHandler, message, content, rfl, rfl, hack⟩
        · exact .inl ⟨hold, by simp⟩
      · simp only [recordAdmissions, hpoint, if_neg hack] at h
        exact .inl ⟨h, by simp⟩
    | _ => exact .inl ⟨by simpa [recordAdmissions, hpoint] using h, by simp⟩
  | _ => exact .inl ⟨by simpa [recordAdmissions, hpoint] using h, by simp⟩

/-- A step of `Run` keeps the admitted clients and takes in the one whose `ACK` it receives. -/
theorem AdmittedHeld.stepRun {x : AdmissionOutcome} (hs : AdmittedHeld (s, admitted))
    (hx : AdmissionUndisturbed (s, admitted) (.run x)) (h : s.stepRun cfg x = some t) :
    AdmittedHeld (t, recordAdmissions admitted s (.run x) t) := by
  refine ⟨hs.1.stepRun h, fun ht pid hpid => ?_⟩
  have hrunning : s.point ≠ .stopped := fun hstop => by simp [AdmissionSystem.stepRun, hstop] at h
  by_cases hreg : ∃ newHandler message p, s.point = .registering newHandler message p
  · obtain ⟨newHandler, message, p, hpoint⟩ := hreg
    have hlogged : ∀ content, p = .acked content → content.fromPark = false →
        x.reply.logged = .ok () ∨ message.senderPID ∈ outsiders newHandler := by
      rintro content rfl
      simpa [AdmissionUndisturbed, hpoint] using hx
    have hnew : ∀ content, p = .adding content → content.fromPark = false →
        message.senderPID ∈ newHandler.clientList → message.senderPID ∈ outsiders newHandler := by
      rintro content rfl
      simpa [AdmissionUndisturbed, hpoint] using hx
    have hnone : s.proc.handleSigint = [] := by
      rw [RestaurantProc.handleSigint, hs.1 (by rw [hpoint]; rfl)]
      rfl
    simp only [AdmissionSystem.stepRun, hpoint, Option.some.injEq] at h
    rw [← h] at ht ⊢
    apply holds_follow ?_ ht
    obtain ⟨hold, -⟩ | ⟨_, _, content, hpoint', rfl, hack, hout⟩ :=
      mem_recordAdmissions (t := t) hpid
    · obtain hclient | hclient | hpending := hs.2 hrunning pid hold
      · simp [hnone] at hclient
      · simp only [hpoint, AdmissionPoint.newOutsiders, AdmissionPoint.newHandler,
          Option.elim_some] at hclient
        exact p.step_of_added hclient
      · simp only [hpoint, AdmissionPoint.pending, Option.ite_none_right_eq_some,
          Option.some.injEq] at hpending
        obtain ⟨hp, rfl⟩ := hpending
        exact RegisterPoint.step_of_admitted (.inl hp) hlogged hnew
    · obtain ⟨rfl, rfl, rfl⟩ := AdmissionPoint.registering.inj (hpoint.symm.trans hpoint')
      exact RegisterPoint.step_of_admitted (.inr ⟨⟨content, rfl, hout⟩, hack⟩) hlogged hnew
  · have hnoPending : s.point.pending = none := by
      cases hpoint : s.point with
      | registering newHandler message p => exact absurd ⟨newHandler, message, p, hpoint⟩ hreg
      | _ => rfl
    have hdrop (hpoint : s.point = .dropping) : s.proc.handleSigint = [] := by
      simpa [AdmissionUndisturbed, hpoint] using hx
    obtain ⟨hold, hexit⟩ | ⟨newHandler, message, content, hpoint, -⟩ :=
      mem_recordAdmissions (t := t) hpid
    · have hclient : pid ∈ s.proc.handleSigint ∨ pid ∈ s.point.newOutsiders := by
        simpa [Holds, hnoPending] using hs.2 hrunning pid hold
      exact holds_run hs.1 hclient
        (fun newHandler message p hp => hreg ⟨newHandler, message, p, hp⟩) hexit hdrop h ht
    · exact absurd ⟨newHandler, message, _, hpoint⟩ hreg

theorem AdmittedHeld.raise (hs : AdmittedHeld (s, admitted))
    (hpending : ∀ pid ∈ s.point.pending, pid ∈ s.point.newOutsiders) (e : Exn) :
    AdmittedHeld (s.raise, recordAdmissions admitted s (.sigUsr1 (.error e)) s.raise) := by
  refine ⟨hs.1.raise, fun hraise pid hpid => ?_⟩
  have hrunning : s.point ≠ .stopped := fun hstop => hraise (by simp [AdmissionSystem.raise, hstop])
  have hclient (hold : pid ∈ admitted) :
      pid ∈ s.proc.handleSigint ∨ pid ∈ s.point.newOutsiders := by
    obtain h | h | h := hs.2 hrunning pid hold
    · exact .inl h
    · exact .inr h
    · exact .inr (hpending pid h)
  cases hpoint : s.point with
  | dispatching clientMsg =>
    have hinstalled (hold : pid ∈ admitted) : pid ∈ s.proc.handleSigint :=
      (hclient hold).resolve_right (by simp [hpoint, AdmissionPoint.newOutsiders,
        AdmissionPoint.newHandler])
    left
    simp only [recordAdmissions, hpoint] at hpid
    simp only [AdmissionSystem.raise, hpoint]
    by_cases hm : clientMsg.mType = .exitRestaurant
    · rw [if_pos hm, Finset.mem_erase] at hpid
      rw [if_pos hm]
      exact mem_handleSigint_pRemoveClient.mpr ⟨hinstalled hpid.2, hpid.1.symm⟩
    · rw [if_neg hm] at hpid ⊢
      exact hinstalled hpid
  | registering newHandler message p =>
    simp only [recordAdmissions, hpoint] at hpid
    simp only [AdmissionSystem.raise, hpoint] at hraise ⊢
    obtain h | h := hclient hpid
    · exact .inl h
    · rw [hpoint] at h
      exact .inr (.inl (mem_newOutsiders_thrown h hraise))
  | _ => simp [AdmissionSystem.raise, hpoint] at hraise

theorem AdmittedHeld.step {a : AdmissionAction} (hs : AdmittedHeld (s, admitted))
    (ha : AdmissionUndisturbed (s, admitted) a) (h : s.step cfg a = some t) :
    AdmittedHeld (t, recordAdmissions admitted s a t) := by
  cases a with
  | run x => exact hs.stepRun ha h
  | closePark | sigInt =>
    obtain rfl := Option.some.inj h
    exact hs
  | sigUsr1 logged => cases logged with
    | ok _ =>
      refine ⟨hs.1.step h, fun hrunning pid hpid => ?_⟩
      obtain rfl := Option.some.inj h
      refine (hs.2 hrunning pid hpid).imp_left fun hclient => ?_
      rwa [handleSigint_congr (RestaurantSystem.closeAttraction_current _)]
    | error e =>
      obtain rfl := Option.some.inj h
      exact AdmittedHeld.raise (s := { s with proc := { s.proc with paused := true } }) hs ha e
  | sigUsr2 logged => cases logged with
    | ok _ =>
      obtain rfl := Option.some.inj h
      exact hs
    | error e =>
      obtain rfl := Option.some.inj h
      exact AdmittedHeld.raise (s := { s with proc := { s.proc with paused := false } }) hs ha e

/-- In a run of the restaurant that nothing disturbs between an `ACK` and the installation of the
round, every `SIGINT` is passed on to every admitted client from outside. -/
theorem evacuationReaches_of_undisturbed {as : List AdmissionAction}
    (h : (admittingMachine cfg).Meets AdmissionUndisturbed (init, ∅) as) :
    (admittingMachine cfg).Meets EvacuationReaches (init, ∅) as := by
  apply Machine.Meets.of_invariant (I := AdmittedHeld) ?_ ⟨(fun h => by cases h), by simp⟩ h
  intro p a q hp ha hstep
  obtain ⟨hstep, hrecord⟩ := Machine.observe_step.mp hstep
  have hq := hp.step ha hstep
  rw [hrecord] at hq
  refine ⟨hq, ?_⟩
  cases a with
  | sigInt =>
    intro hrunning pid hpid
    obtain ⟨hpending, hnew⟩ := ha
    exact (hp.2 hrunning pid hpid).installed hnew hpending
  | _ => trivial

end AdmissionSystem

/-! ## Outside the condition an admitted client is missed -/

theorem mem_outsiders_of_addClient {pid q : Pid} {hasChild fromPark : Bool} {h : AttractionHandler}
    (hq : q ∈ outsiders (h.addClient pid hasChild fromPark).2) :
    q ∈ outsiders h ∨ q = pid ∧ fromPark = false := by
  simp only [mem_outsiders, AttractionHandler.addClient_lookup] at hq ⊢
  obtain ⟨data, hdata, hout⟩ := hq
  split at hdata
  · rename_i hnew
    obtain rfl := Option.some.inj hdata
    exact .inr ⟨hnew.1, hout⟩
  · exact .inl ⟨data, hdata, hout⟩

/-- `admitted` takes in the clients of the round from outside, and the sender that is just being
added. -/
def RegisterPoint.within (message : RestaurantMQMessage) (admitted : Finset Pid) :
    Post AttractionHandler RegisterPoint Bool where
  next h p :=
    (∀ pid ∈ outsiders h, pid ∈ admitted) ∧ (p.pending = true → message.senderPID ∈ admitted)
  returns h _ := ∀ pid ∈ outsiders h, pid ∈ admitted
  throws h := ∀ pid ∈ outsiders h, pid ∈ admitted
  crashes h := ∀ pid ∈ outsiders h, pid ∈ admitted

theorem RegisterPoint.step_within {isOpen : Bool} {cfg : AttractionConfig}
    {message : RestaurantMQMessage} {x : ReplyOutcome} {h : AttractionHandler}
    {admitted : Finset Pid} {p : RegisterPoint} (hclients : ∀ pid ∈ outsiders h, pid ∈ admitted)
    (hpending : p.pending = true → message.senderPID ∈ admitted)
    (hacked : ∀ content, p = .receiving content → x.acknowledged = .ok true →
      content.fromPark = false → message.senderPID ∈ admitted) :
    (p.step isOpen cfg message x h).Satisfies (within message admitted) := by
  cases p with
  | begin =>
    cases hcontent : message.content with
    | emptyMessage => simpa [step, hcontent, within] using hclients
    | enterRestaurant content =>
      simp only [step, hcontent]
      split
      · exact hclients
      · exact ⟨hclients, fun h => by cases h⟩
  | opening content allowed | sending content allowed =>
    simp only [step, satisfies_call, satisfies_ite, satisfies_next, satisfies_returns]
    exact ⟨fun _ _ => hclients, fun _ _ =>
      ⟨fun _ => ⟨hclients, fun h => by cases h⟩, fun _ => hclients⟩⟩
  | receiving content =>
    simp only [step, satisfies_call, satisfies_ite]
    refine ⟨fun _ _ => hclients, fun acked hack => ⟨fun htrue => ⟨hclients, fun hp => ?_⟩,
      fun _ => hclients⟩⟩
    exact hacked content rfl (by rw [hack, htrue]) (by simpa [pending] using hp)
  | acked content =>
    simp only [step, satisfies_call]
    exact ⟨fun _ _ => hclients, fun _ _ => ⟨hclients, hpending⟩⟩
  | adding content =>
    intro pid hpid
    obtain hold | ⟨rfl, hout⟩ := mem_outsiders_of_addClient hpid
    · exact hclients pid hold
    · exact hpending (by simp [pending, hout])
  | catching =>
    simp only [step, satisfies_call]
    exact ⟨fun _ _ => hclients, fun _ _ => hclients⟩

namespace AdmissionSystem
variable {cfg : AttractionConfig} {s t : AdmissionSystem} {admitted : Finset Pid} {pid : Pid}

/-- The restaurant holds admitted clients only. -/
def HoldsOnlyAdmitted (p : AdmissionSystem × Finset Pid) : Prop := ∀ pid, p.1.Holds pid → pid ∈ p.2

theorem newOutsiders_thrown {newHandler : AttractionHandler} {message : RestaurantMQMessage}
    {p : RegisterPoint} (h : pid ∈ (AdmissionPoint.thrown newHandler message p).newOutsiders) :
    pid ∈ outsiders newHandler := by
  unfold AdmissionPoint.thrown at h
  cases hp : p.handler with
  | none => simp [hp, AdmissionPoint.newOutsiders, AdmissionPoint.newHandler] at h
  | some q => simpa [hp, AdmissionPoint.newOutsiders, AdmissionPoint.newHandler] using h

theorem pending_thrown (newHandler : AttractionHandler) (message : RestaurantMQMessage)
    (p : RegisterPoint) : (AdmissionPoint.thrown newHandler message p).pending = none := by
  cases p <;> rfl

theorem HoldsOnlyAdmitted.follow {message : RestaurantMQMessage} {p : RegisterPoint}
    {o : Outcome AttractionHandler RegisterPoint Bool Exn}
    (hinstalled : ∀ pid ∈ s.proc.handleSigint, pid ∈ admitted)
    (ho : o.Satisfies (RegisterPoint.within message admitted)) :
    HoldsOnlyAdmitted (s.follow message p o, admitted) := by
  rintro pid (hclient | hnew)
  · rw [RestaurantProc.handleSigint, handleSigint_follow] at hclient
    exact hinstalled pid hclient
  · obtain ⟨h, flow⟩ := o
    cases flow with
    | next q =>
      obtain hnew | hpending := hnew
      · exact ho.1 pid hnew
      · simp only [AdmissionSystem.follow, AdmissionPoint.pending, Option.ite_none_right_eq_some,
          Option.some.injEq] at hpending
        exact hpending.2 ▸ ho.2 hpending.1
    | returns r =>
      obtain hnew | hpending := hnew
      · cases r <;> exact ho pid hnew
      · cases r <;> cases hpending
    | throws e | crashes =>
      obtain hnew | hpending := hnew
      · exact ho pid (newOutsiders_thrown hnew)
      · simp [AdmissionSystem.follow, pending_thrown] at hpending

/-- A step to a point at which no round is being filled. -/
theorem HoldsOnlyAdmitted.settled (hs : HoldsOnlyAdmitted (s, admitted))
    (hclient : ∀ pid ∈ t.proc.handleSigint, s.Holds pid) (hnew : t.point.newOutsiders = [])
    (hpending : t.point.pending = none) : HoldsOnlyAdmitted (t, admitted) := by
  intro pid hpid
  exact hs pid (hclient pid (hpid.installed hnew hpending))

theorem HoldsOnlyAdmitted.stepRun {x : AdmissionOutcome} (hs : HoldsOnlyAdmitted (s, admitted))
    (h : s.stepRun cfg x = some t) :
    HoldsOnlyAdmitted (t, recordAdmissions admitted s (.run x) t) := by
  cases hpoint : s.point with
  | registering newHandler message p =>
    simp only [AdmissionSystem.stepRun, hpoint, Option.some.injEq] at h
    have hkeeps : ∀ pid ∈ admitted, pid ∈ recordAdmissions admitted s (.run x) t := by
      intro pid hpid
      cases p with
      | receiving content =>
        simp only [recordAdmissions, hpoint]
        split
        · exact Finset.mem_insert_of_mem hpid
        · exact hpid
      | _ => simpa [recordAdmissions, hpoint] using hpid
    subst h
    apply HoldsOnlyAdmitted.follow fun pid hpid => hkeeps pid (hs pid (.inl hpid))
    apply RegisterPoint.step_within
    · exact fun pid hpid => hkeeps pid (hs pid (.inr (.inl (by rw [hpoint]; exact hpid))))
    · exact fun hp => hkeeps _ (hs _ (.inr (.inr (by simp [hpoint, AdmissionPoint.pending, hp]))))
    · rintro content rfl hack hout
      simp [recordAdmissions, hpoint, hack, hout]
  | dispatching clientMsg =>
    intro pid hpid
    simp only [AdmissionSystem.stepRun, hpoint, Option.some.injEq] at h
    subst h
    have hclient := hpid.installed rfl rfl
    simp only [recordAdmissions, hpoint]
    by_cases hm : clientMsg.mType = .exitRestaurant
    · rw [RestaurantProc.pHandleRestaurantMQ_exit clientMsg x.reply s.proc hm,
        mem_handleSigint_pRemoveClient] at hclient
      rw [if_pos hm]
      exact Finset.mem_erase.mpr ⟨hclient.2.symm, hs pid (.inl hclient.1)⟩
    · rw [RestaurantProc.handleSigint,
        RestaurantProc.pHandleRestaurantMQ_other clientMsg x.reply s.proc hm] at hclient
      rw [if_neg hm]
      exact hs pid (.inl hclient)
  | filling newHandler =>
    intro pid hpid
    simp only [recordAdmissions, hpoint]
    simp only [AdmissionSystem.stepRun, hpoint] at h
    apply hs
    rw [Holds, hpoint]
    split at h <;> obtain rfl := Option.some.inj h <;>
      exact hpid
  | installing newHandler =>
    simp only [AdmissionSystem.stepRun, hpoint, Option.some.injEq] at h
    simp only [recordAdmissions, hpoint]
    split at h <;> subst h
    · exact hs.settled (fun _ h => .inl h) rfl rfl
    · exact hs.settled (fun _ h => .inr (.inl (by rw [hpoint]; exact h))) rfl rfl
  | starting =>
    simp only [AdmissionSystem.stepRun, hpoint, Option.some.injEq] at h
    simp only [recordAdmissions, hpoint]
    subst h
    apply hs.settled (fun pid h => ?_) rfl rfl
    rw [handleSigint_congr (r := s.proc)] at h
    · exact .inl h
    · cases hh : s.proc.handler <;> simp
  | loopHead | checking | deciding =>
    simp only [AdmissionSystem.stepRun, hpoint, Option.some.injEq] at h
    simp only [recordAdmissions, hpoint]
    subst h
    refine hs.settled (fun _ h => .inl h) ?_ ?_
    · dsimp only
      split <;> rfl
    · dsimp only
      split <;> rfl
  | dropping =>
    simp only [AdmissionSystem.stepRun, hpoint, Option.some.injEq] at h
    simp only [recordAdmissions, hpoint]
    subst h
    exact hs.settled (fun _ h => by cases h) rfl rfl
  | receiving | announcing =>
    simp only [AdmissionSystem.stepRun, hpoint] at h
    simp only [recordAdmissions, hpoint]
    (repeat' split at h) <;> obtain rfl := Option.some.inj h <;>
      exact hs.settled (fun _ h => .inl h) rfl rfl
  | stopped => simp [AdmissionSystem.stepRun, hpoint] at h

theorem HoldsOnlyAdmitted.raise (hs : HoldsOnlyAdmitted (s, admitted)) (e : Exn) :
    HoldsOnlyAdmitted (s.raise, recordAdmissions admitted s (.sigUsr1 (.error e)) s.raise) := by
  intro pid hpid
  cases hpoint : s.point with
  | dispatching clientMsg =>
    simp only [recordAdmissions, hpoint]
    simp only [AdmissionSystem.raise, hpoint] at hpid
    have hclient := hpid.installed rfl rfl
    dsimp only at hclient
    by_cases hm : clientMsg.mType = .exitRestaurant
    · rw [if_pos hm, mem_handleSigint_pRemoveClient] at hclient
      rw [if_pos hm]
      exact Finset.mem_erase.mpr ⟨hclient.2.symm, hs pid (.inl hclient.1)⟩
    · rw [if_neg hm] at hclient ⊢
      exact hs pid (.inl hclient)
  | registering newHandler message p =>
    simp only [recordAdmissions, hpoint]
    simp only [AdmissionSystem.raise, hpoint] at hpid
    apply hs
    obtain hclient | hnew | hpending := hpid
    · exact .inl hclient
    · exact .inr (.inl (by rw [hpoint]; exact newOutsiders_thrown hnew))
    · simp [pending_thrown] at hpending
  | _ =>
    simp only [recordAdmissions, hpoint]
    simp only [AdmissionSystem.raise, hpoint] at hpid
    exact hs pid (.inl (hpid.installed rfl rfl))

theorem HoldsOnlyAdmitted.step {a : AdmissionAction} (hs : HoldsOnlyAdmitted (s, admitted))
    (h : s.step cfg a = some t) : HoldsOnlyAdmitted (t, recordAdmissions admitted s a t) := by
  cases a with
  | run x => exact hs.stepRun h
  | closePark | sigInt =>
    obtain rfl := Option.some.inj h
    exact hs
  | sigUsr1 logged => cases logged with
    | ok _ =>
      obtain rfl := Option.some.inj h
      rintro pid hpid
      rw [Holds, handleSigint_congr (RestaurantSystem.closeAttraction_current _)] at hpid
      exact hs pid hpid
    | error e =>
      obtain rfl := Option.some.inj h
      exact HoldsOnlyAdmitted.raise (s := { s with proc := { s.proc with paused := true } }) hs e
  | sigUsr2 logged => cases logged with
    | ok _ =>
      obtain rfl := Option.some.inj h
      exact hs
    | error e =>
      obtain rfl := Option.some.inj h
      exact HoldsOnlyAdmitted.raise (s := { s with proc := { s.proc with paused := false } }) hs e

theorem misses {clients : Finset Pid} (hrunning : t.point ≠ .stopped) (hpid : pid ∈ clients)
    (hnone : t.proc.handler = none) : ¬ EvacuationReaches (t, clients) .sigInt :=
  fun h => by simpa [RestaurantProc.handleSigint, hnone] using h hrunning pid hpid

theorem point_of_pending (h : s.point.pending = some pid) : ∃ newHandler message p,
    s.point = .registering newHandler message p ∧ p.pending = true ∧ message.senderPID = pid := by
  cases hpoint : s.point with
  | registering newHandler message p =>
    simp only [hpoint, AdmissionPoint.pending, Option.ite_none_right_eq_some,
      Option.some.injEq] at h
    exact ⟨newHandler, message, p, rfl, h⟩
  | _ => simp [hpoint, AdmissionPoint.pending] at h

/-- An exception between the `ACK` and `AddClient`. -/
theorem not_evacuationReaches_raise (hfills : s.FillsAlone) (hs : HoldsOnlyAdmitted (s, admitted))
    (hpending : s.point.pending = some pid) (e : Exn) :
    ¬ EvacuationReaches (s.raise, recordAdmissions admitted s (.sigUsr1 (.error e)) s.raise)
      .sigInt := by
  obtain ⟨newHandler, message, p, hpoint, hp, rfl⟩ := point_of_pending hpending
  have hnone : s.proc.handler = none := hfills (by rw [hpoint]; rfl)
  have hold : message.senderPID ∈ recordAdmissions admitted s (.sigUsr1 (.error e)) s.raise := by
    simpa [recordAdmissions, hpoint] using hs _ (.inr (.inr hpending))
  refine misses ?_ hold (by simpa [AdmissionSystem.raise, hpoint] using hnone)
  cases p <;>
    simp_all [AdmissionSystem.raise, AdmissionPoint.thrown, RegisterPoint.handler,
      RegisterPoint.pending]

theorem not_evacuationReaches_step {a : AdmissionAction} (hfills : s.FillsAlone)
    (hs : HoldsOnlyAdmitted (s, admitted)) (ha : ¬ AdmissionUndisturbed (s, admitted) a)
    (h : s.step cfg a = some t) :
    ¬ EvacuationReaches (t, recordAdmissions admitted s a t) .sigInt := by
  cases a with
  | run x =>
    cases hpoint : s.point with
    | dropping =>
      simp only [AdmissionUndisturbed, hpoint] at ha
      obtain ⟨pid, hpid⟩ := List.exists_mem_of_ne_nil _ ha
      simp only [AdmissionSystem.step, AdmissionSystem.stepRun, hpoint, Option.some.injEq] at h
      subst h
      exact misses (by simp) (by simpa [recordAdmissions, hpoint] using hs pid (.inl hpid)) rfl
    | registering newHandler message p =>
      have hnone : s.proc.handler = none := hfills (by rw [hpoint]; rfl)
      cases p with
      | acked content =>
        simp only [AdmissionUndisturbed, hpoint, not_forall, not_or] at ha
        obtain ⟨hout, hlogged, -⟩ := ha
        have hold : message.senderPID ∈ admitted :=
          hs _ (.inr (.inr (by simp [hpoint, AdmissionPoint.pending, RegisterPoint.pending, hout])))
        cases hx : x.reply.logged with
        | ok _ => exact absurd hx hlogged
        | error e =>
          simp only [AdmissionSystem.step, AdmissionSystem.stepRun, hpoint, RegisterPoint.step,
            call, hx, AdmissionSystem.follow, Option.some.injEq] at h
          subst h
          exact misses (by simp [AdmissionPoint.thrown, RegisterPoint.handler])
            (by simpa [recordAdmissions, hpoint] using hold) hnone
      | adding content =>
        simp only [AdmissionUndisturbed, hpoint, not_forall] at ha
        obtain ⟨hout, -, -⟩ := ha
        have hold : message.senderPID ∈ admitted :=
          hs _ (.inr (.inr (by simp [hpoint, AdmissionPoint.pending, RegisterPoint.pending, hout])))
        simp only [AdmissionSystem.step, AdmissionSystem.stepRun, hpoint, RegisterPoint.step,
          AdmissionSystem.follow, Option.some.injEq] at h
        subst h
        exact misses (by simp) (by simpa [recordAdmissions, hpoint] using hold) hnone
      | _ => simp [AdmissionUndisturbed, hpoint] at ha
    | _ => simp [AdmissionUndisturbed, hpoint] at ha
  | closePark => simp [AdmissionUndisturbed] at ha
  | sigInt =>
    obtain rfl := Option.some.inj h
    rw [AdmissionUndisturbed, not_and_or] at ha
    obtain hpending | hnew := ha
    · obtain ⟨pid, hpending⟩ := Option.ne_none_iff_exists'.mp hpending
      obtain ⟨newHandler, message, p, hpoint, -⟩ := point_of_pending hpending
      dsimp only at hpoint
      exact misses (by simp [hpoint]) (hs pid (.inr (.inr hpending))) (hfills (by rw [hpoint]; rfl))
    · obtain ⟨pid, hpid⟩ := List.exists_mem_of_ne_nil _ hnew
      have hfilled : s.point.newHandler.isSome = true := by
        by_contra hempty
        simp_all [AdmissionPoint.newOutsiders]
      have hrunning : s.point ≠ .stopped := fun hstop => by
        simp [hstop, AdmissionPoint.newHandler] at hfilled
      exact misses hrunning (hs pid (.inr (.inl hpid))) (hfills hfilled)
  | sigUsr1 logged => cases logged with
    | ok _ => simp [AdmissionUndisturbed] at ha
    | error e =>
      simp only [AdmissionUndisturbed, not_forall] at ha
      obtain ⟨pid, hpending, -⟩ := ha
      obtain rfl := Option.some.inj h
      exact not_evacuationReaches_raise (s := { s with proc := { s.proc with paused := true } })
        hfills hs hpending e
  | sigUsr2 logged => cases logged with
    | ok _ => simp [AdmissionUndisturbed] at ha
    | error e =>
      simp only [AdmissionUndisturbed, not_forall] at ha
      obtain ⟨pid, hpending, -⟩ := ha
      obtain rfl := Option.some.inj h
      exact not_evacuationReaches_raise (s := { s with proc := { s.proc with paused := false } })
        hfills hs hpending e

/-- The condition is exact: after a step of a run that does not meet it, a `SIGINT` misses an
admitted client. -/
theorem not_evacuationReaches_of_disturbed {as : List AdmissionAction} {a : AdmissionAction}
    {p q : AdmissionSystem × Finset Pid}
    (hp : (admittingMachine cfg).exec (init, ∅) as = some p) (ha : ¬ AdmissionUndisturbed p a)
    (h : (admittingMachine cfg).step p a = some q) : ¬ EvacuationReaches q .sigInt := by
  have halways : (admittingMachine cfg).Always (fun p => p.1.FillsAlone ∧ HoldsOnlyAdmitted p)
      (init, ∅) as := by
    apply Machine.always_of_invariant (fun _ hp => hp) ?_ as
    · refine ⟨(fun h => by cases h), ?_⟩
      rintro pid (hclient | hnew | hpending)
      · cases hclient
      · cases hnew
      · cases hpending
    · intro p a q hp hstep
      obtain ⟨hstep, hrecord⟩ := Machine.observe_step.mp hstep
      have hq := HoldsOnlyAdmitted.step hp.2 hstep
      rw [hrecord] at hq
      exact ⟨hp.1.step hstep, hq⟩
  obtain ⟨hstep, hrecord⟩ := Machine.observe_step.mp h
  obtain ⟨hfills, hholds⟩ := halways.of_exec hp
  have hmiss := not_evacuationReaches_step hfills hholds ha hstep
  rwa [hrecord] at hmiss

end AdmissionSystem
end AmusementPark.Restaurant
