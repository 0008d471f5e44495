import AmusementPark.Logger.LogFormat
import AmusementPark.Main.ParkLog

/-! # What the logs say about the park

From the calls of `pLogMessage` in the children to the entries that are read off
the finished logs. A line is cut after 255 bytes and at a NUL; a text with an
end of line in it would be read as two lines.
-/
namespace AmusementPark.Main
open Library Logger

/-- A call of `pLogMessage` in a child. -/
structure LogCall where
  pid : Pid
  role : ProcessRole
  now : ℤ
  message : Bytes

namespace LogCall

/-- The entry that the call should leave in the logs. -/
def entry (putTime : ℤ → Bytes) (call : LogCall) : LogEntry :=
  ⟨putTime call.now, call.pid, (call.message.take 255).takeWhile (· ≠ 0)⟩

/-- The call has sent the message. -/
def Sends (call : LogCall) (msg : LoggerMQMessage) : Prop :=
  pLogMessage call.pid call.role call.now call.message false = some msg

/-- A line of its own, and no more than an `int` can count. -/
def OneLine (call : LogCall) : Prop := call.message.length < 2 ^ 31 ∧ 10 ∉ call.message

variable {call : LogCall} {msg : LoggerMQMessage}

theorem Sends.senderRole (h : call.Sends msg) : msg.senderRole = call.role := by
  obtain ⟨array, -, rfl⟩ := Option.map_eq_some_iff.mp h
  rfl

/-- A short message arrives whole, up to 255 bytes. -/
theorem Sends.cString_eq (h : call.Sends msg) (hshort : call.message.length < 2 ^ 31) :
    cString msg.message = (call.message.take 255).takeWhile (· ≠ 0) := by
  obtain ⟨array, harray, rfl⟩ := Option.map_eq_some_iff.mp h
  obtain ⟨array', harray', hholds⟩ :=
    toArray_of_short (N := loggerMessageMaxLength) (by decide) (by decide) hshort
  rw [harray] at harray'
  rw [Option.some.inj harray']
  exact hholds.readBack

theorem Sends.entry_eq (h : call.Sends msg) (hshort : call.message.length < 2 ^ 31)
    (putTime : ℤ → Bytes) : entryOf putTime msg = call.entry putTime := by
  have htext := h.cString_eq hshort
  obtain ⟨array, -, rfl⟩ := Option.map_eq_some_iff.mp h
  dsimp only at htext
  simp only [entryOf, entry, htext]
  rfl

/-- The entries of messages are those of the calls that have sent them. -/
theorem entries_eq (putTime : ℤ → Bytes) {calls : List LogCall} {msgs : List LoggerMQMessage}
    (hsent : List.Forall₂ Sends calls msgs) (hline : ∀ call ∈ calls, call.OneLine) :
    msgs.map (entryOf putTime) = calls.map (entry putTime) ∧
      ∀ msg ∈ msgs, 10 ∉ cString msg.message := by
  induction hsent with
  | nil => exact ⟨rfl, fun _ h => absurd h List.not_mem_nil⟩
  | cons h _ ih =>
    obtain ⟨hshort, hnewline⟩ := hline _ List.mem_cons_self
    obtain ⟨hentries, htexts⟩ := ih fun c hc => hline c (List.mem_cons_of_mem _ hc)
    refine ⟨?_, List.forall_mem_cons.mpr ⟨?_, htexts⟩⟩
    · rw [List.map_cons, List.map_cons, h.entry_eq hshort, hentries]
    · rw [h.cString_eq hshort]
      intro hmem
      exact hnewline (List.mem_of_mem_take ((List.takeWhile_sublist _).subset hmem))

/-- Calls and messages of one role. -/
theorem sends_filter {calls : List LogCall} {msgs : List LoggerMQMessage}
    (hsent : List.Forall₂ Sends calls msgs) (role : ProcessRole) :
    List.Forall₂ Sends (calls.filter fun call => call.role = role)
      (msgs.filter fun msg => msg.senderRole = role) := by
  induction hsent with
  | nil => exact .nil
  | cons h _ ih =>
    rw [List.filter_cons, List.filter_cons, h.senderRole]
    split
    · exact .cons h ih
    · exact ih

end LogCall

namespace LogSystem

def recordCall (calls : List LogCall) (_ : LogSystem × List LoggerMQMessage) (a : LogAction)
    (_ : LogSystem × List LoggerMQMessage) : List LogCall :=
  match a with
  | .log pid role now message => calls ++ [⟨pid, role, now, message⟩]
  | _ => calls

def callMachine (env : LoggerSetting) :
    Machine ((LogSystem × List LoggerMQMessage) × List LogCall) LogAction :=
  (machine env).observe recordCall

/-- The main log reads as the calls of all children in order, and the log of each role as those of
its processes. -/
structure LogReadable (putTime : ℤ → Bytes) (calls : List LogCall)
    (files : Fin 5 → File) : Prop where
  main : readLog (files 0).content = some (calls.map (LogCall.entry putTime))
  role : ∀ p ∈ roleFiles, readLog (files p.2).content =
    some ((calls.filter fun call => call.role = p.1).map (LogCall.entry putTime))

/-- Once the thread has seen the end-of-log message, and if no write was short and every call was
for a line of its own, the logs read as the calls. -/
def ReadsAsCalled (env : LoggerSetting) (x : (LogSystem × List LoggerMQMessage) × List LogCall) :
    Prop :=
  (env.thread x.1.1.received).point = .terminated → NoShortWrite env.putTime x.1.2 env.results →
    (∀ call ∈ x.2, call.OneLine) →
    LogReadable env.putTime x.2 (env.thread x.1.1.received).files

variable {env : LoggerSetting} {x y : (LogSystem × List LoggerMQMessage) × List LogCall}

/-- The messages are those that the calls have sent. -/
structure CallsLogged (x : (LogSystem × List LoggerMQMessage) × List LogCall) : Prop where
  logging : Logging x.1
  sent : List.Forall₂ LogCall.Sends x.2 x.1.2

theorem CallsLogged.step {a : LogAction} (hx : CallsLogged x) (ha : WaitUninterrupted x.1 a)
    (h : (callMachine env).step x a = some y) : CallsLogged y := by
  obtain ⟨hstep, hcalls⟩ := Machine.observe_step.mp h
  refine ⟨hx.logging.step ha hstep, ?_⟩
  obtain ⟨hstep, hmsgs⟩ := Machine.observe_step.mp hstep
  rw [← hcalls, ← hmsgs]
  cases a with
  | log pid role now message =>
    simp only [LogSystem.step, Option.ite_none_right_eq_some] at hstep
    obtain ⟨-, hstep⟩ := hstep
    obtain ⟨msg, hmsg, -⟩ := send_eq_some hstep
    rw [recordLog, hmsg, Option.toList_some]
    exact List.rel_append hx.sent (.cons hmsg .nil)
  | manager _ | endWork _ | receive => exact hx.sent

theorem CallsLogged.readsAsCalled (hx : CallsLogged x) (htime : ∀ time, 93 ∉ env.putTime time) :
    ReadsAsCalled env x := by
  intro hterminated hwrites hlines
  have hevery : EveryMessageLogged env x.1 := hx.logging.everyMessageLogged
  obtain ⟨-, hcomplete⟩ := hevery hterminated
  have hlogs := hcomplete.mpr hwrites
  constructor
  · obtain ⟨hentries, htexts⟩ := LogCall.entries_eq env.putTime hx.sent hlines
    rw [hlogs.main, readLog_flatMap htime htexts, hentries]
  · intro p hp
    obtain ⟨hentries, htexts⟩ := LogCall.entries_eq env.putTime
      (LogCall.sends_filter hx.sent p.1)
      fun call hcall => hlines call (List.mem_of_mem_filter hcall)
    rw [hlogs.role p hp, readLog_flatMap htime htexts, hentries]

/-- In every run in which no signal interrupts the manager's `wait` while a child is alive, the
finished logs read as the calls of `pLogMessage` that the children have made. -/
theorem readsAsCalled_of_waitUninterrupted (env : LoggerSetting)
    (htime : ∀ time, 93 ∉ env.putTime time) (lock : ℕ) (children : Finset Pid) (as : List LogAction)
    (has : (callMachine env).Meets (fun x a => WaitUninterrupted x.1 a)
      ((started lock children, []), []) as) :
    (callMachine env).Always (ReadsAsCalled env) ((started lock children, []), []) as :=
  Machine.always_of_meets (fun _ (hx : CallsLogged _) => hx.readsAsCalled htime)
    (fun _ _ _ hx ha h => hx.step ha h) ⟨logging_started lock children, .nil⟩ has

/-- A logger whose writes take the 29 bytes of a line with one letter. -/
def clockedWrites : LoggerSetting where
  putTime _ := ascii "1970-01-01 00:00:00"
  disk _ := []
  opened _ := true
  results := [.written 29, .written 29]
  capacity := 10
  mainPID := 4

theorem cashierOutlived_readsAsCalled :
    (callMachine clockedWrites).Always (ReadsAsCalled clockedWrites) ((started 1 {7}, []), [])
      cashierOutlived :=
  readsAsCalled_of_waitUninterrupted clockedWrites
    (fun _ => show 93 ∉ ascii "1970-01-01 00:00:00" by decide) 1 {7} cashierOutlived <|
    Machine.meets_of_mem (by simp [cashierOutlived, Manager.intoWait, WaitUninterrupted,
      Manager.WaitUninterrupted]) _

end LogSystem
end AmusementPark.Main
