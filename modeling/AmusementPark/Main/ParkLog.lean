import AmusementPark.Logger.LoggerThread
import AmusementPark.Main.Children

/-! # The log of the whole park

The manager, its children and the thread of the logger. A child puts its
messages into the logger's queue as long as it lives, the manager sends the
end-of-log message behind its loop around `wait`, and the thread writes what it
receives until that message arrives.
-/
namespace AmusementPark.Main
open Library Logger

/-- What the logger depends on: the time zone, the files, the results of its writes, and the
capacity of its queue. -/
structure LoggerSetting where
  putTime : ℤ → Bytes
  disk : Fin 5 → Bytes
  opened : Fin 5 → Bool
  results : List WriteResult
  capacity : ℕ
  mainPID : Pid

/-- `LoggerThread` with its queue, after it has received the given messages. -/
def LoggerSetting.thread (env : LoggerSetting) (received : List LoggerMQMessage) : LoggerRun :=
  loggerThread env.putTime env.disk env.opened (.ok ()) (received.map fun msg => .ok (some msg))
    env.results

/-- All messages have the same priority, so the first one is received first. -/
structure LogSystem where
  manager : Manager
  queue : List LoggerMQMessage
  received : List LoggerMQMessage

inductive LogAction where
  | manager (a : ManagerAction)
  | endWork (now : ℤ)
  | log (pid : Pid) (role : ProcessRole) (now : ℤ) (message : Bytes)
  | receive

/-- Past the end-of-log message, or past its failure. -/
def LoopPoint.pastEnd : LoopPoint → Bool
  | .join | .removed => true
  | _ => false

theorem LoopPoint.pastWait_of_pastEnd {p : LoopPoint} (h : p.pastEnd = true) :
    p.pastWait = true := by
  cases p <;> first | rfl | cases h

namespace LogSystem

def started (lock : ℕ) (children : Finset Pid) : LogSystem := ⟨.started lock children, [], []⟩

/-- The queue with a message behind the others, if there is room. -/
def send (env : LoggerSetting) (s : LogSystem) (msg : Option LoggerMQMessage) :
    Option LogSystem :=
  if s.queue.length < env.capacity then
    msg.map fun msg => { s with queue := s.queue ++ [msg] } else none

/-- The manager is to send the end-of-log message, or waits in `pthread_join`. -/
def Holds (env : LoggerSetting) (s : LogSystem) (a : ManagerAction) : Prop :=
  a = .main ∧ s.manager.calls = [] ∧ (s.manager.point = .sendEnd ∨
    s.manager.point = .join ∧ (env.thread s.received).point = .waiting)

instance (env : LoggerSetting) (s : LogSystem) (a : ManagerAction) : Decidable (s.Holds env a) :=
  inferInstanceAs (Decidable (_ ∧ _))

def step (env : LoggerSetting) (s : LogSystem) : LogAction → Option LogSystem
  | .manager a => if s.Holds env a then none
      else (s.manager.step a).map fun m => { s with manager := m }
  | .endWork now => if s.manager.calls = [] ∧ s.manager.point = .sendEnd then
      ({ s with manager := { s.manager with point := .join } } : LogSystem).send env
        (pLogMessage env.mainPID .main now [] true)
    else none
  -- the identifier of a process is positive
  | .log pid role now message => if pid ∈ s.manager.children ∧ 0 < pid then
      s.send env (pLogMessage pid role now message false) else none
  | .receive => match s.queue with
    | msg :: rest => if (env.thread s.received).point = .waiting then
        some { s with queue := rest, received := s.received ++ [msg] } else none
    | [] => none

/-- The messages that the children have sent. -/
def recordLog (logged : List LoggerMQMessage) (_ : LogSystem) (a : LogAction) (_ : LogSystem) :
    List LoggerMQMessage :=
  match a with
  | .log pid role now message => logged ++ (pLogMessage pid role now message false).toList
  | _ => logged

def machine (env : LoggerSetting) : Machine (LogSystem × List LoggerMQMessage) LogAction :=
  (⟨step env⟩ : Machine LogSystem LogAction).observe recordLog

/-- Once the thread has seen the end-of-log message, the logs hold everything that the children
have sent, if no write was short, and no child is left to send more. -/
def EveryMessageLogged (env : LoggerSetting) (x : LogSystem × List LoggerMQMessage) : Prop :=
  (env.thread x.1.received).point = .terminated →
    x.1.manager.children = ∅ ∧ (LogComplete env.putTime x.2 (env.thread x.1.received).files ↔
      NoShortWrite env.putTime x.2 env.results)

/-- No signal interrupts the `wait` of the manager while a child is alive. -/
def WaitUninterrupted (x : LogSystem × List LoggerMQMessage) : LogAction → Prop
  | .manager a => x.1.manager.WaitUninterrupted a
  | _ => True

instance (x : LogSystem × List LoggerMQMessage) : ∀ a, Decidable (WaitUninterrupted x a)
  | .manager a => inferInstanceAs (Decidable (x.1.manager.WaitUninterrupted a))
  | .endWork _ | .log .. | .receive => isTrue trivial

/-! ## The thread -/

/-- Without an end-of-log message the thread does not end by itself. -/
theorem loggerLoop_goesOn (putTime : ℤ → Bytes) {msgs : List LoggerMQMessage}
    (hmsgs : ∀ msg ∈ msgs, msg.senderPID ≠ -1) (s : LogFiles) :
    (loggerLoop putTime (msgs.map fun msg => .ok (some msg)) s).1 ≠ .terminated := by
  induction msgs generalizing s with
  | nil => simp [loggerLoop]
  | cons msg msgs ih =>
    have hrest (u : LogFiles) := ih (fun m hm => hmsgs m (List.mem_cons_of_mem msg hm)) u
    rw [List.map_cons, loggerLoop, if_neg (hmsgs msg List.mem_cons_self)]
    split
    · simp
    dsimp only
    split
    · simp
    · simp
    split
    · exact hrest _
    · split
      · simp
      · simp
      · exact hrest _

theorem thread_goesOn {env : LoggerSetting} {received : List LoggerMQMessage}
    (hreceived : ∀ msg ∈ received, msg.senderPID ≠ -1) :
    (env.thread received).point ≠ .terminated := by
  unfold LoggerSetting.thread loggerThread
  split
  · simp
  · next files _ =>
    dsimp only
    have hloop := loggerLoop_goesOn env.putTime hreceived ⟨files, env.results⟩
    split
    · simp
    · next point u _ heq =>
      rw [heq] at hloop
      exact hloop

/-- A thread that has ended by itself on messages and one end-of-log message. -/
theorem logComplete_of_terminated {env : LoggerSetting} {msgs : List LoggerMQMessage}
    {terminator : LoggerMQMessage} (hmsgs : ∀ msg ∈ msgs, msg.senderPID ≠ -1)
    (hterminator : terminator.senderPID = -1)
    (h : (env.thread (msgs ++ [terminator])).point = .terminated) :
    LogComplete env.putTime msgs (env.thread (msgs ++ [terminator])).files ↔
      NoShortWrite env.putTime msgs env.results := by
  obtain ⟨hlength, hcontent⟩ := loggerThread_terminated hmsgs hterminator h
  rw [logComplete_iff hlength, NoShortWrite, ← PartialWrite.kept_forFile_eq_asked_iff]
  apply forall_congr'
  intro j
  rw [← hcontent j]
  rfl

/-! ## What is sent -/

theorem senderPID_endWork {getpid : Pid} {now : ℤ} {message : Bytes} {msg : LoggerMQMessage}
    {role : ProcessRole} (h : pLogMessage getpid role now message true = some msg) :
    msg.senderPID = -1 := by
  obtain ⟨array, -, rfl⟩ := Option.map_eq_some_iff.mp h
  rfl

theorem senderPID_log {getpid : Pid} {now : ℤ} {message : Bytes} {msg : LoggerMQMessage}
    {role : ProcessRole} (h : pLogMessage getpid role now message false = some msg) :
    msg.senderPID = getpid := by
  obtain ⟨array, -, rfl⟩ := Option.map_eq_some_iff.mp h
  rfl

theorem send_eq_some {env : LoggerSetting} {s t : LogSystem} {msg : Option LoggerMQMessage}
    (h : s.send env msg = some t) :
    ∃ m, msg = some m ∧ t = { s with queue := s.queue ++ [m] } := by
  simp only [send, Option.ite_none_right_eq_some] at h
  obtain ⟨-, h⟩ := h
  obtain ⟨m, hm, rfl⟩ := Option.map_eq_some_iff.mp h
  exact ⟨m, hm, rfl⟩

theorem pastEnd_stepLoop {s t : Manager} (hs : s.point.pastEnd = true)
    (h : s.stepLoop = some t) : t.point.pastEnd = true := by
  cases hpoint : s.point with
  | join =>
    simp only [Manager.stepLoop, hpoint, Option.some.injEq] at h
    exact h ▸ rfl
  | removed => simp [Manager.stepLoop, hpoint] at h
  | _ =>
    rw [hpoint] at hs
    cases hs

/-- The manager does not come back from behind the end-of-log message. -/
theorem pastEnd_step {s t : Manager} {a : ManagerAction} (hs : s.point.pastEnd = true)
    (h : s.step a = some t) : t.point.pastEnd = true := by
  cases a with
  | main =>
    cases hcalls : s.calls with
    | nil =>
      simp only [Manager.step, hcalls] at h
      exact pastEnd_stepLoop hs h
    | cons c rest =>
      simp only [Manager.step, hcalls] at h
      rw [(Manager.stepCall_frame h).1]
      exact hs
  | fork pid =>
    simp only [Manager.step, Option.ite_none_right_eq_some] at h
    obtain ⟨⟨-, hpoint, -⟩, -⟩ := h
    rw [hpoint] at hs
    cases hs
  | forkFails =>
    simp only [Manager.step, Option.ite_none_right_eq_some] at h
    obtain ⟨⟨-, hpoint⟩, -⟩ := h
    rw [hpoint] at hs
    cases hs
  | logThrows =>
    simp only [Manager.step, Option.ite_none_right_eq_some] at h
    obtain ⟨⟨-, hpoint⟩, -⟩ := h
    rw [hpoint] at hs
    cases hs
  | deliver signal =>
    simp only [Manager.step, Option.ite_none_left_eq_some, Option.some.injEq] at h
    obtain ⟨-, rfl⟩ := h
    have hinterrupted : s.point.interrupted.pastEnd = true := by
      cases hpoint : s.point <;> rw [hpoint] at hs <;> first | rfl | cases hs
    unfold Manager.deliver
    dsimp only
    split
    · exact hinterrupted
    · exact hs
  | exits pid =>
    simp only [Manager.step, Option.ite_none_right_eq_some, Option.some.injEq] at h
    obtain ⟨-, rfl⟩ := h
    exact hs
  | others lock =>
    obtain rfl := Option.some.inj h
    exact hs

/-- What has been received and what is in the queue is what the children have sent, with at most
one end-of-log message behind it, which the manager sends when they are gone. -/
structure Logging (x : LogSystem × List LoggerMQMessage) : Prop where
  gone : x.1.manager.ChildrenGone
  named : ∀ msg ∈ x.2, msg.senderPID ≠ -1
  traffic : x.1.received ++ x.1.queue = x.2 ∨ x.1.manager.point.pastEnd = true ∧
    ∃ terminator : LoggerMQMessage, terminator.senderPID = -1 ∧
      x.1.received ++ x.1.queue = x.2 ++ [terminator]

theorem logging_started (lock : ℕ) (children : Finset Pid) :
    Logging (started lock children, []) where
  gone h := by cases h
  named _ hmsg := absurd hmsg List.not_mem_nil
  traffic := .inl rfl

theorem Logging.everyMessageLogged {env : LoggerSetting} {x : LogSystem × List LoggerMQMessage}
    (hx : Logging x) : EveryMessageLogged env x := by
  intro hterminated
  have hall : ∀ rest, x.2 ≠ x.1.received ++ rest := by
    intro rest heq
    refine thread_goesOn ?_ hterminated
    intro msg hmsg
    exact hx.named msg (heq ▸ List.mem_append_left rest hmsg)
  obtain htraffic | ⟨hpast, terminator, hterminator, htraffic⟩ := hx.traffic
  · exact absurd htraffic.symm (hall _)
  · -- the thread has seen the end-of-log message, so it has received everything
    have hreceived : x.1.received = x.2 ++ [terminator] := by
      obtain ⟨rest, heq, -⟩ | ⟨rest, hreceived, hrest⟩ := List.append_eq_append_iff.mp htraffic
      · exact absurd heq (hall rest)
      · cases rest with
        | nil => exact absurd (by rw [hreceived, List.append_nil, List.append_nil]) (hall [])
        | cons msg rest =>
          rw [List.cons_append] at hrest
          obtain ⟨rfl, hnil⟩ := List.cons.inj hrest
          rw [hreceived, (List.append_eq_nil_iff.mp hnil.symm).1]
    refine ⟨hx.gone (LoopPoint.pastWait_of_pastEnd hpast), ?_⟩
    rw [hreceived] at hterminated ⊢
    exact logComplete_of_terminated hx.named hterminator hterminated

theorem Logging.step {env : LoggerSetting} {x y : LogSystem × List LoggerMQMessage} {a : LogAction}
    (hx : Logging x) (ha : WaitUninterrupted x a) (h : (machine env).step x a = some y) :
    Logging y := by
  obtain ⟨hstep, hrecord⟩ := Machine.observe_step.mp h
  obtain ⟨t, logged⟩ := y
  dsimp only at hstep hrecord
  cases a with
  | manager a =>
    subst hrecord
    simp only [LogSystem.step, Option.ite_none_left_eq_some] at hstep
    obtain ⟨-, hstep⟩ := hstep
    obtain ⟨m, hm, rfl⟩ := Option.map_eq_some_iff.mp hstep
    refine ⟨Manager.childrenGone_step hx.gone ha hm, hx.named, ?_⟩
    obtain htraffic | ⟨hpast, htraffic⟩ := hx.traffic
    · exact .inl htraffic
    · exact .inr ⟨pastEnd_step hpast hm, htraffic⟩
  | endWork now =>
    subst hrecord
    simp only [LogSystem.step, Option.ite_none_right_eq_some] at hstep
    obtain ⟨⟨-, hpoint⟩, hstep⟩ := hstep
    obtain ⟨msg, hmsg, rfl⟩ := send_eq_some hstep
    refine ⟨fun _ => hx.gone (by rw [hpoint]; rfl), hx.named, .inr ⟨rfl, msg, ?_, ?_⟩⟩
    · exact senderPID_endWork hmsg
    · obtain htraffic | ⟨hpast, -⟩ := hx.traffic
      · dsimp only [recordLog]
        rw [← List.append_assoc, htraffic]
      · rw [hpoint] at hpast
        cases hpast
  | log pid role now message =>
    simp only [LogSystem.step, Option.ite_none_right_eq_some] at hstep
    obtain ⟨⟨hpid, hpos⟩, hstep⟩ := hstep
    obtain ⟨msg, hmsg, rfl⟩ := send_eq_some hstep
    rw [recordLog, hmsg, Option.toList_some] at hrecord
    subst hrecord
    refine ⟨hx.gone, ?_, .inl ?_⟩
    · intro other hother
      obtain hother | hother := List.mem_append.mp hother
      · exact hx.named other hother
      · obtain rfl := List.mem_singleton.mp hother
        rw [senderPID_log hmsg]
        rintro rfl
        cases hpos
    · obtain htraffic | ⟨hpast, -⟩ := hx.traffic
      · dsimp only
        rw [← List.append_assoc, htraffic]
      · rw [hx.gone (LoopPoint.pastWait_of_pastEnd hpast)] at hpid
        exact absurd hpid (Finset.notMem_empty pid)
  | receive =>
    subst hrecord
    cases hqueue : x.1.queue with
    | nil => simp [LogSystem.step, hqueue] at hstep
    | cons msg rest =>
      simp only [LogSystem.step, hqueue, Option.ite_none_right_eq_some, Option.some.injEq] at hstep
      obtain ⟨-, rfl⟩ := hstep
      refine ⟨hx.gone, hx.named, ?_⟩
      have htraffic := hx.traffic
      rw [hqueue] at htraffic
      simpa [recordLog] using htraffic

/-- In every run in which no signal interrupts the manager's `wait` while a child is alive: when
the thread of the logger has come to its end, all children are gone, and the logs hold every
message that any of them has sent, in the order of sending, if and only if no write was short. -/
theorem everyMessageLogged_of_waitUninterrupted (env : LoggerSetting) (lock : ℕ)
    (children : Finset Pid) (as : List LogAction)
    (has : (machine env).Meets WaitUninterrupted (started lock children, []) as) :
    (machine env).Always (EveryMessageLogged env) (started lock children, []) as :=
  Machine.always_of_meets (fun _ hx => hx.everyMessageLogged) (fun _ _ _ hx ha h => hx.step ha h)
    (logging_started lock children) has

/-- A logger whose writes take all eleven bytes of a message of one letter. -/
def fullWrites : LoggerSetting where
  putTime _ := [48]
  disk _ := []
  opened _ := true
  results := [.written 11, .written 11]
  capacity := 10
  mainPID := 4

/-- The manager closes the park; a cashier with PID 7 logs a letter while the manager waits for
it. -/
def cashierOutlived : List LogAction :=
  [.manager .main, .manager .forkFails] ++ Manager.intoWait.map .manager ++
    [.log 7 .cashier 0 [97], .receive, .manager (.exits 7), .manager .main, .endWork 0, .receive,
      .manager .main]

theorem cashierOutlived_everyMessageLogged :
    (machine fullWrites).Always (EveryMessageLogged fullWrites) (started 1 {7}, [])
      cashierOutlived :=
  everyMessageLogged_of_waitUninterrupted fullWrites 1 {7} cashierOutlived <|
    Machine.meets_of_mem (by simp [cashierOutlived, Manager.intoWait, WaitUninterrupted,
      Manager.WaitUninterrupted]) _

end LogSystem
end AmusementPark.Main
