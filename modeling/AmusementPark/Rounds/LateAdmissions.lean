import AmusementPark.Cashier.Admission
import AmusementPark.Restaurant.Admission
import AmusementPark.Library.LastCall

/-! # Admissions after the park has closed

A registration reads `isOpen` once, before it opens the reply queue and sends
the permit; the park may close at any time after that. The cashier and the
restaurant let in at most the one client they were dealing with at that time,
and nobody whose permit was not decided in the open park.
-/
namespace AmusementPark
open Library Library.Outcome Worker

namespace Cashier

/-- What `pRegisterClient` has done for the sender: it has found the park open, or has sent the
permit that says so, and has not entered the client in `m_clients`. -/
def RegisterPoint.guest (pid : Pid) : RegisterPoint → Guest Pid
  | .opening _ true | .sending _ true => .expected pid
  | .receiving _ | .acked _ | .counting _ | .recording _ _ => .permitted pid
  | .begin | .opening _ false | .sending _ false | .catching => .nobody

def AdmissionPoint.guest : AdmissionPoint → Guest Pid
  | .registering _ message p => p.guest message.senderPID
  | _ => .nobody

/-- How a call of `pRegisterClient` goes on. -/
inductive RegisterPoint.Next (isOpen : Bool) : RegisterPoint → RegisterPoint → Prop where
  | tested (content : EnterPark) : Next isOpen .begin (.opening content isOpen)
  | opened (content : EnterPark) (allowed : Bool) :
      Next isOpen (.opening content allowed) (.sending content allowed)
  | sent (content : EnterPark) : Next isOpen (.sending content true) (.receiving content)
  | received (content : EnterPark) : Next isOpen (.receiving content) (.acked content)
  | logged (content : EnterPark) : Next isOpen (.acked content) (.counting content)
  | counted (content : EnterPark) (entryTime : ℤ) :
      Next isOpen (.counting content) (.recording content entryTime)

theorem RegisterPoint.next_of_step {isOpen : Bool} {parkSize : ℕ} {message : RegisterMQMessage}
    {x : ReplyOutcome} {c : CashierProc} {p q : RegisterPoint}
    (h : (p.step isOpen parkSize message x c).2 = .next q) : p.Next isOpen q := by
  cases p with
  | begin =>
    simp only [RegisterPoint.step] at h
    split at h
    · cases h
    · split at h
      · cases h
      · obtain rfl := Flow.next.inj h
        exact .tested _
  | opening content allowed =>
    obtain ⟨opened, -, h⟩ := next_of_call h
    cases opened with
    | false => cases h
    | true =>
      obtain rfl := Flow.next.inj h
      exact .opened content allowed
  | sending content allowed =>
    obtain ⟨sent, -, h⟩ := next_of_call h
    cases sent <;> cases allowed <;> try cases h
    exact .sent content
  | receiving content =>
    obtain ⟨acked, -, h⟩ := next_of_call h
    cases acked with
    | false => cases h
    | true =>
      obtain rfl := Flow.next.inj h
      exact .received content
  | acked content =>
    obtain ⟨-, -, h⟩ := next_of_call h
    obtain rfl := Flow.next.inj h
    exact .logged content
  | counting content =>
    obtain rfl := Flow.next.inj h
    exact .counted content x.now
  | recording content entryTime => cases h
  | catching =>
    obtain ⟨-, -, h⟩ := next_of_call h
    cases h

namespace AdmissionSystem

/-- The clients for which `pRegisterClient` finds the park open, those that are sent the permit,
those that are entered in `m_clients`, and those of them that are entered in the closed park. -/
def recordPermits (b : LastCall Pid) (s : AdmissionSystem) (a : AdmissionAction)
    (t : AdmissionSystem) : LastCall Pid :=
  match a, s.point with
  | .run _, .registering _ _ .begin => { b with
      decided := b.decided ++ t.point.guest.expected?.toList }
  | .run _, .registering _ _ (.sending _ _) => { b with
      permits := b.permits ++ t.point.guest.permitted?.toList }
  | .run _, .registering _ message (.recording _ _) => { b with
      admitted := b.admitted ++ [message.senderPID]
      late := if s.isOpen then b.late else b.late ++ [message.senderPID] }
  | _, _ => b

def permitMachine (parkSize : ℕ) : Machine (AdmissionSystem × LastCall Pid) AdmissionAction :=
  (machine parkSize).observe recordPermits

variable {parkSize : ℕ} {s t : AdmissionSystem} {b : LastCall Pid}

theorem raise_guest (s : AdmissionSystem) :
    s.raise.isOpen = s.isOpen ∧ s.raise.point.guest = .nobody := by
  unfold raise
  split
  · exact ⟨rfl, rfl⟩
  · next vip message p _ => cases p <;> exact ⟨rfl, rfl⟩
  · exact ⟨rfl, rfl⟩

/-- `Run` follows the step of `pRegisterClient`. -/
theorem follow_guest (s : AdmissionSystem) (vip : Bool) (message : RegisterMQMessage)
    (o : Outcome CashierProc RegisterPoint Bool Exn) :
    (s.follow vip message o).isOpen = s.isOpen ∧
      ((s.follow vip message o).point.guest = .nobody ∨
        ∃ q, o.2 = .next q ∧ (s.follow vip message o).point = .registering vip message q) := by
  obtain ⟨c, flow⟩ := o
  cases flow with
  | next q => exact ⟨rfl, .inr ⟨q, rfl, rfl⟩⟩
  | returns r => cases r <;> cases vip <;> exact ⟨rfl, .inl rfl⟩
  | throws e =>
    obtain ⟨hopen, hguest⟩ := raise_guest { s with proc := c }
    exact ⟨hopen, .inl hguest⟩
  | crashes =>
    obtain ⟨hopen, hguest⟩ := raise_guest { s with proc := c }
    exact ⟨hopen, .inl hguest⟩

/-- A step inside `pRegisterClient`. -/
theorem move_registering {vip : Bool} {message : RegisterMQMessage} {p : RegisterPoint}
    {x : AdmissionOutcome} (hpoint : s.point = .registering vip message p)
    (h : s.stepRun parkSize x = some t) :
    LastCall.Move s.isOpen s.point.guest b t.isOpen t.point.guest
      (recordPermits b s (.run x) t) := by
  simp only [stepRun, hpoint, Option.some.injEq] at h
  obtain ⟨hopen, hguest⟩ := follow_guest s vip message
    (p.step s.isOpen parkSize message x.reply s.proc)
  rw [h] at hopen hguest
  rw [hopen]
  obtain hnone | ⟨q, hnext, hregistering⟩ := hguest
  · rw [hnone]
    cases p with
    | recording content entryTime =>
      simp only [recordPermits, hpoint]
      exact .admitHeld _ rfl
    | begin | sending _ _ =>
      simp only [recordPermits, hpoint, hnone, Guest.expected?, Guest.permitted?,
        Option.toList_none, List.append_nil]
      exact .lapse
    | opening _ _ | receiving _ | acked _ | counting _ | catching =>
      simp only [recordPermits, hpoint]
      exact .lapse
  · have ht : t.point.guest = q.guest message.senderPID := by rw [hregistering]; rfl
    cases RegisterPoint.next_of_step hnext with
    | tested content =>
      simp only [recordPermits, hpoint, ht]
      cases hisOpen : s.isOpen with
      | true => exact .decide message.senderPID rfl
      | false =>
        simp only [RegisterPoint.guest, Guest.expected?, Option.toList_none, List.append_nil]
        exact .lapse
    | opened content allowed =>
      simp only [recordPermits, hpoint, ht]
      cases allowed <;> exact .keep
    | sent content =>
      simp only [recordPermits, hpoint, ht]
      exact .permit message.senderPID rfl
    | received content | logged content | counted content entryTime =>
      simp only [recordPermits, hpoint, ht]
      exact .keep

theorem move_step {a : AdmissionAction} (h : step parkSize s a = some t) :
    LastCall.Move s.isOpen s.point.guest b t.isOpen t.point.guest (recordPermits b s a t) := by
  cases a with
  | run x =>
    cases hpoint : s.point with
    | registering vip message p => exact hpoint ▸ move_registering hpoint h
    | loopHead | handling | dispatching _ | vipLoop | ordinaryLoop | logging =>
      simp only [step, stepRun, hpoint] at h
      have hnone : t.isOpen = s.isOpen ∧ t.point.guest = .nobody := by
        (repeat' split at h) <;> obtain rfl := Option.some.inj h <;> constructor <;> rfl
      simp only [recordPermits, hpoint, hnone.1, hnone.2]
      exact .lapse
    | stopped => simp [step, stepRun, hpoint] at h
  | closePark =>
    obtain rfl := Option.some.inj h
    exact .close
  | sigUsr1 =>
    obtain rfl := Option.some.inj h
    exact .keep
  | sigTerm logged =>
    simp only [step] at h
    split at h
    · obtain rfl := Option.some.inj h
      exact .keep
    · split at h
      · obtain rfl := Option.some.inj h
        exact .keep
      · obtain rfl := Option.some.inj h
        obtain ⟨hopen, hguest⟩ := raise_guest s
        rw [hopen, hguest]
        exact .lapse

end AdmissionSystem
end Cashier

namespace Restaurant

/-- What `pRegisterClient` has done for the sender: it has found the park open, or has sent the
permit that says so, and has not called `AddClient`. -/
def RegisterPoint.guest (pid : Pid) : RegisterPoint → Guest Pid
  | .opening _ true | .sending _ true => .expected pid
  | .receiving _ | .acked _ | .adding _ => .permitted pid
  | .begin | .opening _ false | .sending _ false | .catching => .nobody

def AdmissionPoint.guest : AdmissionPoint → Guest Pid
  | .registering _ message p => p.guest message.senderPID
  | _ => .nobody

/-- How a call of `pRegisterClient` goes on. -/
inductive RegisterPoint.Next (isOpen : Bool) : RegisterPoint → RegisterPoint → Prop where
  | tested (content : EnterRestaurant) : Next isOpen .begin (.opening content isOpen)
  | opened (content : EnterRestaurant) (allowed : Bool) :
      Next isOpen (.opening content allowed) (.sending content allowed)
  | sent (content : EnterRestaurant) : Next isOpen (.sending content true) (.receiving content)
  | received (content : EnterRestaurant) : Next isOpen (.receiving content) (.acked content)
  | logged (content : EnterRestaurant) : Next isOpen (.acked content) (.adding content)

theorem RegisterPoint.next_of_step {isOpen : Bool} {cfg : AttractionConfig}
    {message : RestaurantMQMessage} {x : ReplyOutcome} {handler : AttractionHandler}
    {p q : RegisterPoint} (h : (p.step isOpen cfg message x handler).2 = .next q) :
    p.Next isOpen q := by
  cases p with
  | begin =>
    simp only [RegisterPoint.step] at h
    split at h
    · cases h
    · split at h
      · cases h
      · obtain rfl := Flow.next.inj h
        exact .tested _
  | opening content allowed =>
    obtain ⟨opened, -, h⟩ := next_of_call h
    cases opened with
    | false => cases h
    | true =>
      obtain rfl := Flow.next.inj h
      exact .opened content allowed
  | sending content allowed =>
    obtain ⟨sent, -, h⟩ := next_of_call h
    cases sent <;> cases allowed <;> try cases h
    exact .sent content
  | receiving content =>
    obtain ⟨acked, -, h⟩ := next_of_call h
    cases acked with
    | false => cases h
    | true =>
      obtain rfl := Flow.next.inj h
      exact .received content
  | acked content =>
    obtain ⟨-, -, h⟩ := next_of_call h
    obtain rfl := Flow.next.inj h
    exact .logged content
  | adding content => cases h
  | catching =>
    obtain ⟨-, -, h⟩ := next_of_call h
    cases h

namespace AdmissionSystem

/-- The clients for which `pRegisterClient` finds the park open, those that are sent the permit,
those for which `AddClient` is called, and those of them for which it is called in the closed
park. -/
def recordPermits (b : LastCall Pid) (s : AdmissionSystem) (a : AdmissionAction)
    (t : AdmissionSystem) : LastCall Pid :=
  match a, s.point with
  | .run _, .registering _ _ .begin => { b with
      decided := b.decided ++ t.point.guest.expected?.toList }
  | .run _, .registering _ _ (.sending _ _) => { b with
      permits := b.permits ++ t.point.guest.permitted?.toList }
  | .run _, .registering _ message (.adding _) => { b with
      admitted := b.admitted ++ [message.senderPID]
      late := if s.isOpen then b.late else b.late ++ [message.senderPID] }
  | _, _ => b

def permitMachine (cfg : AttractionConfig) :
    Machine (AdmissionSystem × LastCall Pid) AdmissionAction :=
  (machine cfg).observe recordPermits

variable {cfg : AttractionConfig} {s t : AdmissionSystem} {b : LastCall Pid}

theorem thrown_guest (newHandler : AttractionHandler) (message : RestaurantMQMessage)
    (p : RegisterPoint) : (AdmissionPoint.thrown newHandler message p).guest = .nobody := by
  cases p <;> rfl

theorem raise_guest (s : AdmissionSystem) :
    s.raise.isOpen = s.isOpen ∧ s.raise.point.guest = .nobody := by
  unfold raise
  split
  · exact ⟨rfl, rfl⟩
  · next newHandler message p _ => exact ⟨rfl, thrown_guest newHandler message p⟩
  · exact ⟨rfl, rfl⟩

/-- `Run` follows the step of `pRegisterClient`. -/
theorem follow_guest (s : AdmissionSystem) (message : RestaurantMQMessage) (p : RegisterPoint)
    (o : Outcome AttractionHandler RegisterPoint Bool Exn) :
    (s.follow message p o).isOpen = s.isOpen ∧ ((s.follow message p o).point.guest = .nobody ∨
      ∃ q, o.2 = .next q ∧ (s.follow message p o).point = .registering o.1 message q) := by
  obtain ⟨handler, flow⟩ := o
  cases flow with
  | next q => exact ⟨rfl, .inr ⟨q, rfl, rfl⟩⟩
  | returns r => cases r <;> exact ⟨rfl, .inl rfl⟩
  | throws e => exact ⟨rfl, .inl (thrown_guest handler message p)⟩
  | crashes => exact ⟨rfl, .inl (thrown_guest handler message p)⟩

/-- A step inside `pRegisterClient`. -/
theorem move_registering {newHandler : AttractionHandler} {message : RestaurantMQMessage}
    {p : RegisterPoint} {x : AdmissionOutcome}
    (hpoint : s.point = .registering newHandler message p) (h : s.stepRun cfg x = some t) :
    LastCall.Move s.isOpen s.point.guest b t.isOpen t.point.guest
      (recordPermits b s (.run x) t) := by
  simp only [stepRun, hpoint, Option.some.injEq] at h
  obtain ⟨hopen, hguest⟩ := follow_guest s message p
    (p.step s.isOpen cfg message x.reply newHandler)
  rw [h] at hopen hguest
  rw [hopen]
  obtain hnone | ⟨q, hnext, hregistering⟩ := hguest
  · rw [hnone]
    cases p with
    | adding content =>
      simp only [recordPermits, hpoint]
      exact .admitHeld _ rfl
    | begin | sending _ _ =>
      simp only [recordPermits, hpoint, hnone, Guest.expected?, Guest.permitted?,
        Option.toList_none, List.append_nil]
      exact .lapse
    | opening _ _ | receiving _ | acked _ | catching =>
      simp only [recordPermits, hpoint]
      exact .lapse
  · have ht : t.point.guest = q.guest message.senderPID := by rw [hregistering]; rfl
    cases RegisterPoint.next_of_step hnext with
    | tested content =>
      simp only [recordPermits, hpoint, ht]
      cases hisOpen : s.isOpen with
      | true => exact .decide message.senderPID rfl
      | false =>
        simp only [RegisterPoint.guest, Guest.expected?, Option.toList_none, List.append_nil]
        exact .lapse
    | opened content allowed =>
      simp only [recordPermits, hpoint, ht]
      cases allowed <;> exact .keep
    | sent content =>
      simp only [recordPermits, hpoint, ht]
      exact .permit message.senderPID rfl
    | received content | logged content =>
      simp only [recordPermits, hpoint, ht]
      exact .keep

theorem move_step {a : AdmissionAction} (h : step cfg s a = some t) :
    LastCall.Move s.isOpen s.point.guest b t.isOpen t.point.guest (recordPermits b s a t) := by
  cases a with
  | run x =>
    cases hpoint : s.point with
    | registering newHandler message p => exact hpoint ▸ move_registering hpoint h
    | loopHead | checking | dropping | receiving | dispatching _ | deciding | filling _
    | installing _ | starting | announcing =>
      simp only [step, stepRun, hpoint] at h
      have hnone : t.isOpen = s.isOpen ∧ t.point.guest = .nobody := by
        (repeat' split at h) <;> obtain rfl := Option.some.inj h <;> constructor <;> rfl
      simp only [recordPermits, hpoint, hnone.1, hnone.2]
      exact .lapse
    | stopped => simp [step, stepRun, hpoint] at h
  | closePark =>
    obtain rfl := Option.some.inj h
    exact .close
  | sigUsr1 logged =>
    simp only [step] at h
    split at h
    · obtain rfl := Option.some.inj h
      exact .keep
    · obtain rfl := Option.some.inj h
      obtain ⟨hopen, hguest⟩ :=
        raise_guest { s with proc := { s.proc with paused := true } }
      rw [hopen, hguest]
      exact .lapse
  | sigUsr2 logged =>
    simp only [step] at h
    split at h
    · obtain rfl := Option.some.inj h
      exact .keep
    · obtain rfl := Option.some.inj h
      obtain ⟨hopen, hguest⟩ :=
        raise_guest { s with proc := { s.proc with paused := false } }
      rw [hopen, hguest]
      exact .lapse
  | sigInt =>
    obtain rfl := Option.some.inj h
    exact .keep

end AdmissionSystem
end Restaurant

/-- In every run of the cashier and of the restaurant, cut between any two of their calls: each
admission uses up a permit, each permit was decided in the open park, and at most one client is let
in after the park has closed. -/
theorem lastCall_cashier_restaurant (parkSize : ℕ) (cfg : AttractionConfig)
    (as : List Cashier.AdmissionAction) (bs : List Restaurant.AdmissionAction) :
    (Cashier.AdmissionSystem.permitMachine parkSize).Always
        (fun x => x.2.Orderly x.1.isOpen) (.init, .empty) as ∧
      (Restaurant.AdmissionSystem.permitMachine cfg).Always
        (fun x => x.2.Orderly x.1.isOpen) (.init, .empty) bs := by
  constructor
  · refine LastCall.orderly_of_move Cashier.AdmissionSystem.isOpen (fun s => s.point.guest) ?_ rfl
      as
    intro x a y hy
    obtain ⟨hstep, hrecord⟩ := Machine.observe_step.mp hy
    rw [← hrecord]
    exact Cashier.AdmissionSystem.move_step hstep
  · refine LastCall.orderly_of_move Restaurant.AdmissionSystem.isOpen (fun s => s.point.guest) ?_
      rfl bs
    intro x a y hy
    obtain ⟨hstep, hrecord⟩ := Machine.observe_step.mp hy
    rw [← hrecord]
    exact Restaurant.AdmissionSystem.move_step hstep

/-- The park closes before the cashier opens the queue of PID 7, which gets a permit anyway. -/
example : let entry : RegisterMQMessage := ⟨7, .enterPark, .enterPark ⟨false, false, .h2⟩⟩
    let run : Cashier.AdmissionAction := .run ⟨0, .ok (some entry), .faultless 7 0⟩
    ((Cashier.AdmissionSystem.permitMachine 4).exec (.init, .empty)
      (List.replicate 6 run ++ .closePark :: List.replicate 7 run)).map
        (fun x => (x.2.decided, x.2.permits, x.2.late)) = some ([7], [7], [7]) := by decide

end AmusementPark
