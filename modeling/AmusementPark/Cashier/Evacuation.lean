import AmusementPark.Cashier.Admission
import AmusementPark.Library.Machine

/-! # Evacuation of the clients in the park

The cashier learns of an admitted client when it receives the `ACK`, and
`HandleSigUsr1` reaches the clients in `m_clients`. A client between the two, or
dropped by an exception or by `SIGTERM`, is not told to leave.
-/
namespace AmusementPark.Cashier
open Library Library.Outcome

/-! ## The admitted clients -/

/-- The `ACK` has been received, and the client is not yet in `m_clients`. -/
def RegisterPoint.pending : RegisterPoint → Bool
  | .acked _ | .counting _ | .recording _ _ => true
  | .begin | .opening _ _ | .sending _ _ | .receiving _ | .catching => false

def AdmissionPoint.pending : AdmissionPoint → Option Pid
  | .registering _ message p => if p.pending then some message.senderPID else none
  | _ => none

namespace AdmissionSystem

/-- The clients whose `ACK` has been received and whose exit has not been handled. -/
def recordAdmissions (admitted : Finset Pid) (s : AdmissionSystem) :
    AdmissionAction → AdmissionSystem → Finset Pid
  | .run x, _ => match s.point with
    | .registering _ message (.receiving _) =>
      if x.reply.acknowledged = .ok true then insert message.senderPID admitted else admitted
    | .dispatching registerMsg =>
      if registerMsg.mType = .exitPark then admitted.erase registerMsg.senderPID else admitted
    | _ => admitted
  | .sigTerm (.error _), _ => match s.point with
    | .dispatching registerMsg => if s.isOpen = false ∧ registerMsg.mType = .exitPark then
        admitted.erase registerMsg.senderPID else admitted
    | _ => admitted
  | .closePark, _ | .sigUsr1, _ | .sigTerm (.ok ()), _ => admitted

def admittingMachine (parkSize : ℕ) : Machine (AdmissionSystem × Finset Pid) AdmissionAction :=
  (machine parkSize).observe recordAdmissions

/-- A `SIGUSR1` during `Run` is passed on to every admitted client. -/
def EvacuationReaches (p : AdmissionSystem × Finset Pid) : AdmissionAction → Prop
  | .sigUsr1 => p.1.point ≠ .stopped → ∀ pid ∈ p.2, pid ∈ p.1.proc.pSignalAllClients
  | _ => True

/-- A client whose `ACK` has been received is entered before the next `SIGUSR1`, no exception comes
in between, and no `SIGTERM` drops clients. -/
def AdmissionUndisturbed (p : AdmissionSystem × Finset Pid) : AdmissionAction → Prop
  | .sigUsr1 => ∀ pid ∈ p.1.point.pending, pid ∈ p.1.proc.clients
  | .sigTerm (.ok ()) =>
    p.1.isOpen = true ∨ p.1.proc.clients.entries = [] ∨ p.1.point = .stopped
  | .sigTerm (.error _) => p.1.isOpen = true ∨ ∀ pid ∈ p.1.point.pending, pid ∈ p.1.proc.clients
  | .run x => match p.1.point with
    | .registering _ message (.acked _) => x.reply.logged = .ok () ∨
        message.senderPID ∈ p.1.proc.clients
    | _ => True
  | .closePark => True

instance decidableEvacuationReaches (p : AdmissionSystem × Finset Pid) :
    ∀ a, Decidable (EvacuationReaches p a)
  | .sigUsr1 => inferInstanceAs (Decidable (_ → _))
  | .run _ | .closePark | .sigTerm _ => isTrue trivial

instance decidableAdmissionUndisturbed (p : AdmissionSystem × Finset Pid) :
    ∀ a, Decidable (AdmissionUndisturbed p a)
  | .sigUsr1 => inferInstanceAs (Decidable (∀ pid ∈ _, _))
  | .sigTerm (.ok ()) => inferInstanceAs (Decidable (_ ∨ _ ∨ _))
  | .sigTerm (.error _) => inferInstanceAs (Decidable (_ ∨ _))
  | .run _ => by
    unfold AdmissionUndisturbed
    dsimp only
    split <;> infer_instance
  | .closePark => isTrue trivial

/-- The client is in `m_clients`, or it is just being entered there. -/
def Holds (s : AdmissionSystem) (pid : Pid) : Prop :=
  pid ∈ s.proc.clients ∨ s.point.pending = some pid

/-- During `Run` the cashier holds every admitted client. -/
def AdmittedHeld (p : AdmissionSystem × Finset Pid) : Prop :=
  p.1.point ≠ .stopped → ∀ pid ∈ p.2, p.1.Holds pid

end AdmissionSystem

/-! ## What `pRegisterClient` does to a registered or an admitted client -/

/-- The client is registered, or it is the sender and is just being entered. -/
def RegisterPoint.holding (message : RegisterMQMessage) (pid : Pid) :
    Post CashierProc RegisterPoint Bool where
  next c p := pid ∈ c.clients ∨ p.pending = true ∧ message.senderPID = pid
  returns c _ := pid ∈ c.clients
  throws c := pid ∈ c.clients
  crashes c := pid ∈ c.clients

section Register
variable {isOpen : Bool} {parkSize : ℕ} {message : RegisterMQMessage} {x : ReplyOutcome}
  {c : CashierProc} {pid : Pid}

theorem RegisterPoint.step_of_registered (p : RegisterPoint) (hpid : pid ∈ c.clients) :
    (p.step isOpen parkSize message x c).Satisfies (holding message pid) := by
  cases p with
  | begin =>
    cases hcontent : message.content with
    | exitPark content => simpa [step, hcontent, holding] using hpid
    | enterPark content =>
      simp only [step, hcontent]
      split
      · exact hpid
      · exact .inl hpid
  | opening content allowed | sending content allowed =>
    simp [step, satisfies_call, holding, hpid]
  | receiving content => simp [step, satisfies_call, holding, hpid]
  | acked content => simp [step, satisfies_call, holding, hpid]
  | counting content => exact .inl hpid
  | recording content entryTime => exact (AList.mem_insert _).mpr (.inr hpid)
  | catching => simp [step, satisfies_call, holding, hpid]

/-- A client whose `ACK` has been received is on its way into `m_clients`. -/
theorem RegisterPoint.step_of_admitted {p : RegisterPoint}
    (hp : p.pending = true ∨ (∃ content, p = .receiving content) ∧ x.acknowledged = .ok true)
    (hlogged : ∀ content, p = .acked content →
      x.logged = .ok () ∨ message.senderPID ∈ c.clients) :
    (p.step isOpen parkSize message x c).Satisfies (holding message message.senderPID) := by
  obtain hpending | ⟨⟨content, rfl⟩, hack⟩ := hp
  · cases p with
    | begin | opening | sending | receiving | catching => cases hpending
    | acked content =>
      simp only [step, satisfies_call]
      refine ⟨fun e he => ?_, fun _ _ => .inr ⟨rfl, rfl⟩⟩
      obtain hok | hmem := hlogged content rfl
      · simp [hok] at he
      · exact hmem
    | counting content => exact .inr ⟨rfl, rfl⟩
    | recording content entryTime => exact (AList.mem_insert _).mpr (.inl rfl)
  · simp only [step, hack, call]
    exact .inr ⟨rfl, rfl⟩

end Register

namespace AdmissionSystem
variable {parkSize : ℕ} {s t : AdmissionSystem} {admitted : Finset Pid} {pid : Pid}

theorem raise_clients (h : pid ∈ s.proc.clients)
    (hexit : ∀ registerMsg, s.point = .dispatching registerMsg → registerMsg.mType = .exitPark →
      registerMsg.senderPID ≠ pid) : pid ∈ s.raise.proc.clients := by
  cases hpoint : s.point with
  | dispatching registerMsg =>
    simp only [raise, hpoint]
    split
    · exact CashierProc.mem_pRemoveClient.mpr ⟨h, hexit registerMsg hpoint ‹_›⟩
    · exact h
  | registering vip message p => simpa only [raise, hpoint] using h
  | _ => simpa [raise, hpoint] using h

/-- `Run` follows the step of `pRegisterClient`. -/
theorem holds_follow {vip : Bool} {message : RegisterMQMessage} {p : RegisterPoint}
    {o : Outcome CashierProc RegisterPoint Bool Exn} (hpoint : s.point = .registering vip message p)
    (ho : o.Satisfies (RegisterPoint.holding message pid)) :
    (s.follow vip message o).Holds pid := by
  have hraise (hpid : pid ∈ o.1.clients) :
      ({ s with proc := o.1 } : AdmissionSystem).raise.Holds pid :=
    .inl (raise_clients hpid (by simp [hpoint]))
  obtain ⟨c, flow⟩ := o
  cases flow with
  | next q => exact ho.imp_right fun h => by simp [follow, AdmissionPoint.pending, h.1, h.2]
  | returns r => cases r <;> cases vip <;> exact .inl ho
  | throws e => exact hraise ho
  | crashes => exact hraise ho

/-- The other steps of `Run`. -/
theorem holds_run {x : AdmissionOutcome} (hpid : pid ∈ s.proc.clients)
    (hpoint : ∀ vip message p, s.point ≠ .registering vip message p)
    (hexit : ∀ registerMsg, s.point = .dispatching registerMsg → registerMsg.mType = .exitPark →
      registerMsg.senderPID ≠ pid) (h : s.stepRun parkSize x = some t) : t.Holds pid := by
  left
  cases hs : s.point with
  | registering vip message p => exact absurd hs (hpoint vip message p)
  | dispatching registerMsg =>
    simp only [stepRun, hs, Option.some.injEq] at h
    subst h
    by_cases hm : registerMsg.mType = .exitPark
    · rw [CashierProc.pHandleRegisterMQ_exit registerMsg x.reply s.proc hm]
      exact CashierProc.mem_pRemoveClient.mpr ⟨hpid, hexit registerMsg hs hm⟩
    · rw [(CashierProc.pHandleRegisterMQ_other registerMsg x.reply s.proc hm).1]
      exact hpid
  | loopHead | handling | vipLoop | ordinaryLoop | logging =>
    simp only [stepRun, hs] at h
    (repeat' split at h) <;> obtain rfl := Option.some.inj h <;> exact hpid
  | stopped => simp [stepRun, hs] at h

theorem mem_recordAdmissions {x : AdmissionOutcome}
    (h : pid ∈ recordAdmissions admitted s (.run x) t) :
    (pid ∈ admitted ∧ ∀ registerMsg, s.point = .dispatching registerMsg →
      registerMsg.mType = .exitPark → registerMsg.senderPID ≠ pid) ∨
    ∃ vip message content, s.point = .registering vip message (.receiving content) ∧
      message.senderPID = pid ∧ x.reply.acknowledged = .ok true := by
  cases hpoint : s.point with
  | dispatching registerMsg =>
    left
    simp only [recordAdmissions, hpoint] at h
    by_cases hm : registerMsg.mType = .exitPark
    · rw [if_pos hm, Finset.mem_erase] at h
      refine ⟨h.2, fun msg hmsg _ => ?_⟩
      rw [← AdmissionPoint.dispatching.inj hmsg]
      exact h.1.symm
    · rw [if_neg hm] at h
      refine ⟨h, fun msg hmsg hexit => absurd hexit ?_⟩
      rw [← AdmissionPoint.dispatching.inj hmsg]
      exact hm
  | registering vip message p =>
    by_cases hack : (∃ content, p = .receiving content) ∧ x.reply.acknowledged = .ok true
    · obtain ⟨⟨content, rfl⟩, hack⟩ := hack
      simp only [recordAdmissions, hpoint, hack, if_true, Finset.mem_insert] at h
      obtain rfl | hold := h
      · exact .inr ⟨vip, message, content, rfl, rfl, hack⟩
      · exact .inl ⟨hold, by simp⟩
    · refine .inl ⟨?_, by simp⟩
      cases p with
      | receiving content =>
        have hno : x.reply.acknowledged ≠ .ok true := fun hok => hack ⟨⟨content, rfl⟩, hok⟩
        simpa [recordAdmissions, hpoint, hno] using h
      | _ => simpa [recordAdmissions, hpoint] using h
  | _ => exact .inl ⟨by simpa [recordAdmissions, hpoint] using h, by simp⟩

/-- A step of `Run` keeps the admitted clients and takes in the one whose `ACK` it receives. -/
theorem AdmittedHeld.stepRun {x : AdmissionOutcome} (hs : AdmittedHeld (s, admitted))
    (hx : AdmissionUndisturbed (s, admitted) (.run x)) (h : s.stepRun parkSize x = some t) :
    AdmittedHeld (t, recordAdmissions admitted s (.run x) t) := by
  intro _ pid hpid
  have hrunning : s.point ≠ .stopped := fun hstop => by simp [AdmissionSystem.stepRun, hstop] at h
  by_cases hreg : ∃ vip message p, s.point = .registering vip message p
  · obtain ⟨vip, message, p, hpoint⟩ := hreg
    have hlogged : ∀ content, p = .acked content →
        x.reply.logged = .ok () ∨ message.senderPID ∈ s.proc.clients := by
      rintro content rfl
      simpa [AdmissionUndisturbed, hpoint] using hx
    simp only [AdmissionSystem.stepRun, hpoint, Option.some.injEq] at h
    rw [← h]
    apply holds_follow hpoint
    obtain ⟨hold, -⟩ | ⟨_, _, content, hpoint', rfl, hack⟩ := mem_recordAdmissions (t := t) hpid
    · obtain hclient | hpending := hs hrunning pid hold
      · exact p.step_of_registered hclient
      · simp only [hpoint, AdmissionPoint.pending, Option.ite_none_right_eq_some,
          Option.some.injEq] at hpending
        obtain ⟨hp, rfl⟩ := hpending
        exact RegisterPoint.step_of_admitted (.inl hp) hlogged
    · obtain ⟨rfl, rfl, rfl⟩ := AdmissionPoint.registering.inj (hpoint.symm.trans hpoint')
      exact RegisterPoint.step_of_admitted (.inr ⟨⟨content, rfl⟩, hack⟩) hlogged
  · have hnoPending : s.point.pending = none := by
      cases hpoint : s.point with
      | registering vip message p => exact absurd ⟨vip, message, p, hpoint⟩ hreg
      | _ => rfl
    obtain ⟨hold, hexit⟩ | ⟨vip, message, content, hpoint, -⟩ := mem_recordAdmissions (t := t) hpid
    · obtain hclient | hpending := hs hrunning pid hold
      · exact holds_run hclient (fun vip message p hp => hreg ⟨vip, message, p, hp⟩) hexit h
      · simp [hnoPending] at hpending
    · exact absurd ⟨vip, message, _, hpoint⟩ hreg

theorem AdmittedHeld.raise (hs : AdmittedHeld (s, admitted)) (hclosed : s.isOpen = false)
    (hpending : ∀ pid ∈ s.point.pending, pid ∈ s.proc.clients) (e : Exn) :
    AdmittedHeld (s.raise, recordAdmissions admitted s (.sigTerm (.error e)) s.raise) := by
  intro hraise pid hpid
  have hrunning : s.point ≠ .stopped := fun hstop => hraise (by simp [AdmissionSystem.raise, hstop])
  have hclient (hold : pid ∈ admitted) : pid ∈ s.proc.clients :=
    (hs hrunning pid hold).elim id fun h => hpending pid h
  left
  cases hpoint : s.point with
  | dispatching registerMsg =>
    simp only [recordAdmissions, hpoint, hclosed, true_and] at hpid
    by_cases hm : registerMsg.mType = .exitPark
    · rw [if_pos hm, Finset.mem_erase] at hpid
      apply raise_clients (hclient hpid.2)
      intro msg hmsg _
      rw [← AdmissionPoint.dispatching.inj (hpoint.symm.trans hmsg)]
      exact hpid.1.symm
    · rw [if_neg hm] at hpid
      apply raise_clients (hclient hpid)
      intro msg hmsg hexit
      rw [← AdmissionPoint.dispatching.inj (hpoint.symm.trans hmsg)] at hexit
      exact absurd hexit hm
  | _ =>
    simp only [recordAdmissions, hpoint] at hpid
    exact raise_clients (hclient hpid) (by simp [hpoint])

/-- In the open park a `SIGTERM` does nothing. -/
theorem recordAdmissions_of_open (hopen : s.isOpen = true) (logged : Except Exn Unit) :
    recordAdmissions admitted s (.sigTerm logged) t = admitted := by
  cases logged with
  | ok _ => rfl
  | error e =>
    simp only [recordAdmissions, hopen, Bool.true_eq_false, false_and, if_false]
    split <;> rfl

theorem AdmittedHeld.step {a : AdmissionAction} (hs : AdmittedHeld (s, admitted))
    (ha : AdmissionUndisturbed (s, admitted) a) (h : s.step parkSize a = some t) :
    AdmittedHeld (t, recordAdmissions admitted s a t) := by
  cases a with
  | run x => exact hs.stepRun ha h
  | closePark =>
    obtain rfl := Option.some.inj h
    exact hs
  | sigUsr1 =>
    obtain rfl := Option.some.inj h
    exact hs
  | sigTerm logged =>
    cases hopen : s.isOpen with
    | true =>
      simp only [AdmissionSystem.step, hopen, if_true, Option.some.injEq] at h
      subst h
      cases logged with
      | ok _ => exact hs
      | error e =>
        rw [recordAdmissions_of_open hopen]
        exact hs
    | false => cases logged with
      | ok _ =>
        simp only [AdmissionSystem.step, hopen, Bool.false_eq_true, if_false,
          Option.some.injEq] at h
        subst h
        intro hrunning pid hpid
        have hnone : s.proc.clients.entries = [] :=
          (ha.resolve_left (by simp [hopen])).resolve_right hrunning
        refine .inr ((hs hrunning pid hpid).resolve_left fun hclient => ?_)
        simp [AList.mem_keys, AList.keys, hnone] at hclient
      | error e =>
        simp only [AdmissionSystem.step, hopen, Bool.false_eq_true, if_false,
          Option.some.injEq] at h
        subst h
        exact hs.raise hopen (ha.resolve_left (by simp [hopen])) e

/-- In a run of the cashier that no signal and no exception disturbs between an `ACK` and the entry
in `m_clients`, every `SIGUSR1` is passed on to every admitted client. -/
theorem evacuationReaches_of_undisturbed {as : List AdmissionAction}
    (h : (admittingMachine parkSize).Meets AdmissionUndisturbed (init, ∅) as) :
    (admittingMachine parkSize).Meets EvacuationReaches (init, ∅) as := by
  apply Machine.Meets.of_invariant (I := AdmittedHeld) ?_ (fun _ _ hpid => absurd hpid (by simp)) h
  intro p a q hp ha hstep
  obtain ⟨hstep, hrecord⟩ := Machine.observe_step.mp hstep
  have hq := hp.step ha hstep
  rw [hrecord] at hq
  refine ⟨hq, ?_⟩
  cases a with
  | sigUsr1 =>
    intro hrunning pid hpid
    obtain hclient | hpending := hp hrunning pid hpid
    · exact AList.mem_keys.mp hclient
    · exact AList.mem_keys.mp (ha pid hpending)
  | _ => trivial

/-! ## Outside the condition an admitted client is missed -/

end AdmissionSystem

/-- `admitted` takes in the registered clients, and the sender that is just being entered. -/
def RegisterPoint.within (message : RegisterMQMessage) (admitted : Finset Pid) :
    Post CashierProc RegisterPoint Bool where
  next c p :=
    (∀ pid ∈ c.clients, pid ∈ admitted) ∧ (p.pending = true → message.senderPID ∈ admitted)
  returns c _ := ∀ pid ∈ c.clients, pid ∈ admitted
  throws c := ∀ pid ∈ c.clients, pid ∈ admitted
  crashes c := ∀ pid ∈ c.clients, pid ∈ admitted

theorem RegisterPoint.step_within {isOpen : Bool} {parkSize : ℕ} {message : RegisterMQMessage}
    {x : ReplyOutcome} {c : CashierProc} {admitted : Finset Pid} {p : RegisterPoint}
    (hclients : ∀ pid ∈ c.clients, pid ∈ admitted)
    (hpending : p.pending = true → message.senderPID ∈ admitted)
    (hacked : ∀ content, p = .receiving content → x.acknowledged = .ok true →
      message.senderPID ∈ admitted) :
    (p.step isOpen parkSize message x c).Satisfies (within message admitted) := by
  cases p with
  | begin =>
    cases hcontent : message.content with
    | exitPark content => simpa [step, hcontent, within] using hclients
    | enterPark content =>
      simp only [step, hcontent]
      split
      · exact hclients
      · exact ⟨hclients, fun h => by cases h⟩
  | opening content allowed | sending content allowed =>
    simp only [step, satisfies_call, satisfies_ite, satisfies_next, satisfies_returns]
    exact ⟨fun _ _ => hclients, fun _ _ =>
      ⟨fun _ => ⟨hclients, fun h => by cases h⟩, fun _ => hclients⟩⟩
  | receiving content =>
    simp only [step, satisfies_call, satisfies_ite]
    refine ⟨fun _ _ => hclients, fun acked hack => ⟨fun htrue => ⟨hclients, fun _ => ?_⟩,
      fun _ => hclients⟩⟩
    exact hacked content rfl (by rw [hack, htrue])
  | acked content =>
    simp only [step, satisfies_call]
    exact ⟨fun _ _ => hclients, fun _ _ => ⟨hclients, fun _ => hpending rfl⟩⟩
  | counting content => exact ⟨hclients, fun _ => hpending rfl⟩
  | recording content entryTime =>
    intro pid hpid
    obtain rfl | hold := (AList.mem_insert _).mp hpid
    · exact hpending rfl
    · exact hclients pid hold
  | catching =>
    simp only [step, satisfies_call]
    exact ⟨fun _ _ => hclients, fun _ _ => hclients⟩

namespace AdmissionSystem
variable {parkSize : ℕ} {s t : AdmissionSystem} {admitted : Finset Pid} {pid : Pid}

/-- The cashier holds admitted clients only. -/
def HoldsOnlyAdmitted (p : AdmissionSystem × Finset Pid) : Prop := ∀ pid, p.1.Holds pid → pid ∈ p.2

theorem raise_clients_subset (h : pid ∈ s.raise.proc.clients) : pid ∈ s.proc.clients ∧
    ∀ registerMsg, s.point = .dispatching registerMsg → registerMsg.mType = .exitPark →
      registerMsg.senderPID ≠ pid := by
  cases hpoint : s.point with
  | dispatching registerMsg =>
    simp only [raise, hpoint] at h
    by_cases hm : registerMsg.mType = .exitPark
    · rw [if_pos hm, CashierProc.mem_pRemoveClient] at h
      exact ⟨h.1, fun msg hmsg _ => AdmissionPoint.dispatching.inj hmsg ▸ h.2⟩
    · rw [if_neg hm] at h
      exact ⟨h, fun msg hmsg hexit => absurd (AdmissionPoint.dispatching.inj hmsg ▸ hexit) hm⟩
  | _ => exact ⟨by simpa [raise, hpoint] using h, by simp⟩

theorem pending_raise (s : AdmissionSystem) : s.raise.point.pending = none := by
  unfold raise
  cases s.point with
  | registering vip message p => cases p <;> rfl
  | _ => rfl

theorem HoldsOnlyAdmitted.follow {vip : Bool} {message : RegisterMQMessage} {p : RegisterPoint}
    {o : Outcome CashierProc RegisterPoint Bool Exn} (hpoint : s.point = .registering vip message p)
    (ho : o.Satisfies (RegisterPoint.within message admitted)) :
    HoldsOnlyAdmitted (s.follow vip message o, admitted) := by
  intro pid hpid
  have hraise (hclients : ∀ pid ∈ o.1.clients, pid ∈ admitted)
      (h : ({ s with proc := o.1 } : AdmissionSystem).raise.Holds pid) : pid ∈ admitted := by
    obtain hclient | hpending := h
    · exact hclients pid (raise_clients_subset hclient).1
    · simp [pending_raise] at hpending
  obtain ⟨c, flow⟩ := o
  cases flow with
  | next q =>
    obtain hclient | hpending := hpid
    · exact ho.1 pid hclient
    · simp only [AdmissionSystem.follow, AdmissionPoint.pending, Option.ite_none_right_eq_some,
        Option.some.injEq] at hpending
      exact hpending.2 ▸ ho.2 hpending.1
  | returns r =>
    obtain hclient | hpending := hpid
    · cases r <;> cases vip <;> exact ho pid hclient
    · cases r <;> cases vip <;> cases hpending
  | throws e => exact hraise ho hpid
  | crashes => exact hraise ho hpid

theorem HoldsOnlyAdmitted.stepRun {x : AdmissionOutcome} (hs : HoldsOnlyAdmitted (s, admitted))
    (h : s.stepRun parkSize x = some t) :
    HoldsOnlyAdmitted (t, recordAdmissions admitted s (.run x) t) := by
  cases hpoint : s.point with
  | registering vip message p =>
    simp only [AdmissionSystem.stepRun, hpoint, Option.some.injEq] at h
    have hkeeps : ∀ pid ∈ admitted, pid ∈ recordAdmissions admitted s (.run x) t := by
      intro pid hpid
      cases p with
      | receiving content =>
        simp only [recordAdmissions, hpoint]
        split
        · exact Finset.mem_insert_of_mem hpid
        · exact hpid
      | _ => simpa [recordAdmissions, hpoint] using hpid
    subst h
    apply HoldsOnlyAdmitted.follow hpoint
    apply RegisterPoint.step_within
    · exact fun pid hpid => hkeeps pid (hs pid (.inl hpid))
    · exact fun hp => hkeeps _ (hs _ (.inr (by simp [hpoint, AdmissionPoint.pending, hp])))
    · rintro content rfl hack
      simp [recordAdmissions, hpoint, hack]
  | dispatching registerMsg =>
    intro pid hpid
    simp only [AdmissionSystem.stepRun, hpoint, Option.some.injEq] at h
    subst h
    have hclient := hpid.resolve_right (by simp [AdmissionPoint.pending])
    simp only [recordAdmissions, hpoint]
    by_cases hm : registerMsg.mType = .exitPark
    · rw [CashierProc.pHandleRegisterMQ_exit registerMsg x.reply s.proc hm,
        CashierProc.mem_pRemoveClient] at hclient
      rw [if_pos hm]
      exact Finset.mem_erase.mpr ⟨hclient.2.symm, hs pid (.inl hclient.1)⟩
    · rw [(CashierProc.pHandleRegisterMQ_other registerMsg x.reply s.proc hm).1] at hclient
      rw [if_neg hm]
      exact hs pid (.inl hclient)
  | loopHead | handling | vipLoop | ordinaryLoop | logging =>
    intro pid hpid
    simp only [recordAdmissions, hpoint]
    simp only [AdmissionSystem.stepRun, hpoint] at h
    apply hs
    left
    (repeat' split at h) <;> obtain rfl := Option.some.inj h <;>
      exact hpid.resolve_right (by simp [AdmissionPoint.pending, RegisterPoint.pending])
  | stopped => simp [AdmissionSystem.stepRun, hpoint] at h

theorem HoldsOnlyAdmitted.step {a : AdmissionAction} (hs : HoldsOnlyAdmitted (s, admitted))
    (h : s.step parkSize a = some t) : HoldsOnlyAdmitted (t, recordAdmissions admitted s a t) := by
  cases a with
  | run x => exact hs.stepRun h
  | closePark =>
    obtain rfl := Option.some.inj h
    exact hs
  | sigUsr1 =>
    obtain rfl := Option.some.inj h
    exact hs
  | sigTerm logged =>
    cases hopen : s.isOpen with
    | true =>
      simp only [AdmissionSystem.step, hopen, if_true, Option.some.injEq] at h
      subst h
      rw [recordAdmissions_of_open hopen]
      exact hs
    | false =>
      simp only [AdmissionSystem.step, hopen, Bool.false_eq_true, if_false] at h
      cases logged with
      | ok _ =>
        obtain rfl := Option.some.inj h
        intro pid hpid
        obtain hclient | hpending := hpid
        · simp [CashierProc.handleSigTerm] at hclient
        · exact hs pid (.inr hpending)
      | error e =>
        obtain rfl := Option.some.inj h
        intro pid hpid
        obtain ⟨hclient, hexit⟩ :=
          raise_clients_subset (hpid.resolve_right (by simp [pending_raise]))
        have hold := hs pid (.inl hclient)
        cases hpoint : s.point with
        | dispatching registerMsg =>
          simp only [recordAdmissions, hpoint]
          split
          · exact Finset.mem_erase.mpr ⟨(hexit registerMsg hpoint (by tauto)).symm, hold⟩
          · exact hold
        | _ => simpa [recordAdmissions, hpoint] using hold

theorem misses {clients : Finset Pid} (hrunning : t.point ≠ .stopped) (hpid : pid ∈ clients)
    (hmissing : pid ∉ t.proc.clients) : ¬ EvacuationReaches (t, clients) .sigUsr1 :=
  fun h => hmissing (AList.mem_keys.mpr (h hrunning pid hpid))

theorem point_of_pending (h : s.point.pending = some pid) : ∃ vip message p,
    s.point = .registering vip message p ∧ p.pending = true ∧ message.senderPID = pid := by
  cases hpoint : s.point with
  | registering vip message p =>
    simp only [hpoint, AdmissionPoint.pending, Option.ite_none_right_eq_some,
      Option.some.injEq] at h
    exact ⟨vip, message, p, rfl, h⟩
  | _ => simp [hpoint, AdmissionPoint.pending] at h

theorem not_evacuationReaches_step {a : AdmissionAction}
    (hs : HoldsOnlyAdmitted (s, admitted)) (ha : ¬ AdmissionUndisturbed (s, admitted) a)
    (h : s.step parkSize a = some t) :
    ¬ EvacuationReaches (t, recordAdmissions admitted s a t) .sigUsr1 := by
  cases a with
  | run x =>
    cases hpoint : s.point with
    | registering vip message p => cases p with
      | acked content =>
        simp only [AdmissionUndisturbed, hpoint, not_or] at ha
        obtain ⟨hlogged, hmissing⟩ := ha
        have hold : message.senderPID ∈ admitted :=
          hs _ (.inr (by simp [hpoint, AdmissionPoint.pending, RegisterPoint.pending]))
        cases hx : x.reply.logged with
        | ok _ => exact absurd hx hlogged
        | error e =>
          simp only [AdmissionSystem.step, AdmissionSystem.stepRun, hpoint, RegisterPoint.step,
            call, hx, AdmissionSystem.follow, AdmissionSystem.raise, Option.some.injEq] at h
          subst h
          exact misses (by simp [RegisterPoint.handler])
            (by simpa [recordAdmissions, hpoint] using hold) hmissing
      | _ => simp [AdmissionUndisturbed, hpoint] at ha
    | _ => simp [AdmissionUndisturbed, hpoint] at ha
  | closePark => simp [AdmissionUndisturbed] at ha
  | sigUsr1 =>
    simp only [AdmissionUndisturbed, not_forall] at ha
    obtain ⟨pid, hpending, hmissing⟩ := ha
    obtain ⟨vip, message, p, hpoint, -⟩ := point_of_pending hpending
    obtain rfl := Option.some.inj h
    exact misses (by simp [hpoint]) (hs pid (.inr hpending)) hmissing
  | sigTerm logged => cases logged with
    | ok _ =>
      simp only [AdmissionUndisturbed, not_or, Bool.not_eq_true] at ha
      obtain ⟨hopen, hclients, hrunning⟩ := ha
      obtain ⟨client, hclient⟩ := List.exists_mem_of_ne_nil _ hclients
      simp only [AdmissionSystem.step, hopen, Bool.false_eq_true, if_false, Option.some.injEq] at h
      subst h
      have hold : client.1 ∈ admitted :=
        hs _ (.inl (AList.mem_keys.mpr (List.mem_map_of_mem hclient)))
      exact misses hrunning hold (by simp [CashierProc.handleSigTerm])
    | error e =>
      simp only [AdmissionUndisturbed, not_or, Bool.not_eq_true, not_forall] at ha
      obtain ⟨hopen, pid, hpending, hmissing⟩ := ha
      obtain ⟨vip, message, p, hpoint, hp, -⟩ := point_of_pending hpending
      simp only [AdmissionSystem.step, hopen, Bool.false_eq_true, if_false, Option.some.injEq] at h
      subst h
      refine misses ?_ ?_ fun hclient => hmissing (raise_clients_subset hclient).1
      · cases p <;> simp_all [AdmissionSystem.raise, RegisterPoint.handler, RegisterPoint.pending]
      · simpa [recordAdmissions, hpoint] using hs pid (.inr hpending)

/-- The condition is exact: after a step of a run that does not meet it, a `SIGUSR1` misses an
admitted client. -/
theorem not_evacuationReaches_of_disturbed {as : List AdmissionAction} {a : AdmissionAction}
    {p q : AdmissionSystem × Finset Pid}
    (hp : (admittingMachine parkSize).exec (init, ∅) as = some p) (ha : ¬ AdmissionUndisturbed p a)
    (h : (admittingMachine parkSize).step p a = some q) : ¬ EvacuationReaches q .sigUsr1 := by
  have halways : (admittingMachine parkSize).Always HoldsOnlyAdmitted (init, ∅) as := by
    apply Machine.always_of_invariant (fun _ hp => hp) ?_ as
    · rintro pid (hclient | hpending)
      · cases hclient
      · cases hpending
    · intro p a q hp hstep
      obtain ⟨hstep, hrecord⟩ := Machine.observe_step.mp hstep
      have hq := HoldsOnlyAdmitted.step hp hstep
      rwa [hrecord] at hq
  obtain ⟨hstep, hrecord⟩ := Machine.observe_step.mp h
  have hmiss := not_evacuationReaches_step (halways.of_exec hp) ha hstep
  rwa [hrecord] at hmiss

end AdmissionSystem
end AmusementPark.Cashier
