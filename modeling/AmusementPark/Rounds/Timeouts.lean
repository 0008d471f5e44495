import AmusementPark.Attraction.NullEntries
import AmusementPark.Cashier.CashierProc
import AmusementPark.Ipc.SemSignal
import AmusementPark.Rounds.Closing
import Mathlib.Order.Bounds.Basic

/-! # How long a worker waits while a round is running

The attraction and the restaurant wait for an event at most until the earliest
of their rounds ends. The wait is computed as the finish time less the clock,
and one second past the finish time the difference is -1, which `SemSignal`
takes for no timeout at all.
-/
namespace AmusementPark

/-! ## The timeout of `SemSignal` -/

namespace Ipc.SemRequest

/-- The calls of one `SemSignal` are all timed, or all untimed. -/
theorem loop_tvSec {r : SemRequest} {clock : ℕ → ℤ} (endTime : ℤ) (results : List KernelResult)
    (i : ℕ) (tvSec : ℤ) : ∀ call ∈ (r.loop endTime clock i tvSec results).calls,
      (call.tvSec = none ↔ r.timeout = -1) := by
  have hcall (tvSec : ℤ) (result : KernelResult) :
      (r.call tvSec result).tvSec = none ↔ r.timeout = -1 := by
    simp [call]
  apply loop_induction (P := fun run : SemSignalRun =>
    ∀ call ∈ run.calls, (call.tvSec = none ↔ r.timeout = -1))
  · intro now
    simp
  · intro tvSec now
    simpa using hcall tvSec .success
  · intro tvSec run ih
    exact List.forall_mem_cons.mpr ⟨hcall tvSec .eintr, ih⟩
  · intro tvSec result now _ _
    simpa using hcall tvSec result

/-- The `Wait` of `Run` on the event semaphore; its parameter is an `int`. -/
def eventWait (semID timeout : ℤ) : SemRequest :=
  wait semID 1 false false (Cashier.CashierProc.toInt timeout)

theorem semSignal_tvSec (array : SemaphoreArray) (r : SemRequest) (clock : ℕ → ℤ)
    (results : List KernelResult) : ∀ call ∈ (r.semSignal array clock results).calls,
      (call.tvSec = none ↔ r.timeout = -1) := by
  rw [semSignal]
  split
  · intro call hcall
    cases hcall
  · exact loop_tvSec _ results 2 _

end Ipc.SemRequest

/-- The clock is a second past the finish time, as far as an `int` can tell. -/
def OneSecondLate (finish now : ℤ) : Prop := (2 : ℤ) ^ 32 ∣ now - (finish + 1)

instance (finish now : ℤ) : Decidable (OneSecondLate finish now) :=
  inferInstanceAs (Decidable (_ ∣ _))

theorem eventWait_unlimited_iff (semID finish now : ℤ) :
    (Ipc.SemRequest.eventWait semID (finish - now)).timeout = -1 ↔ OneSecondLate finish now := by
  change Cashier.CashierProc.toInt (finish - now) = -1 ↔ _
  rw [Cashier.CashierProc.toInt, Int.bmod_def, OneSecondLate]
  split <;> omega

/-- Where the difference fits into an `int`, a wait that has a timeout ends by the finish time. -/
theorem eventWait_deadline (semID : ℤ) {finish now : ℤ} (hlow : -2 ^ 31 ≤ finish - now)
    (hhigh : finish - now < 2 ^ 31) (hlate : ¬ OneSecondLate finish now) :
    (Ipc.SemRequest.eventWait semID (finish - now)).deadline now = some finish := by
  have htimeout : (Ipc.SemRequest.eventWait semID (finish - now)).timeout = finish - now := by
    change Cashier.CashierProc.toInt (finish - now) = _
    rw [Cashier.CashierProc.toInt, Int.bmod_def]
    split <;> omega
  rw [Ipc.SemRequest.deadline, if_neg (mt (eventWait_unlimited_iff semID finish now).mp hlate),
    htimeout, add_sub_cancel]

/-! ## Every installed round has a finish time -/

namespace Worker
open Library

/-- While the worker runs, every installed handler has a finish time, unless `StartAttraction`
is about to set it. -/
def Rounds.Timed (R : Rounds) : Prop :=
  R.stage ≠ .stopped → R.stage ≠ .crashed → ∀ id h, R.installed id = some h →
    0 < h.finishTime ∨ (R.stage = .starting id ∧ h.started = false)

/-- A call that starts a handler reads a clock past the epoch. -/
def AfterEpoch (calls : List (ℕ × HandlerCall)) : Prop :=
  ∀ id now, (id, HandlerCall.startAttraction now) ∈ calls → 0 < now

namespace Rounds
variable {cap : ℕ} {R R' : Rounds} {kind : StepKind} {calls : List (ℕ × HandlerCall)}

theorem Timed.pos (hR : R.Timed) (hstage : R.stage = .idle ∨ (∃ id h, R.stage = .building id h) ∨
      ∃ id, R.stage = .announcing id) {id : ℕ} {h : AttractionHandler}
    (hh : R.installed id = some h) : 0 < h.finishTime := by
  obtain hidle | ⟨i, k, hbuilding⟩ | ⟨i, hannouncing⟩ := hstage
  · simpa [hidle] using hR (by simp [hidle]) (by simp [hidle]) id h hh
  · simpa [hbuilding] using hR (by simp [hbuilding]) (by simp [hbuilding]) id h hh
  · simpa [hannouncing] using hR (by simp [hannouncing]) (by simp [hannouncing]) id h hh

/-- A call that keeps the finish time keeps the invariant. -/
theorem Timed.onInstalled (hR : R.Timed) {c : HandlerCall}
    {installed : ℕ → Option AttractionHandler} (h : R.OnInstalled c calls installed)
    (hc : ∀ h k, c.effect h = some k → k.finishTime = h.finishTime ∧ k.started = h.started)
    {stage : Stage} (hstage : stage = R.stage) (paused : Bool) :
    Timed ⟨installed, stage, paused⟩ := by
  subst hstage
  intro hstopped hcrashed id k hk
  obtain ⟨h', hh', hcases⟩ := h.of_some hk
  cases hcases with
  | inl heq =>
    subst heq
    exact hR hstopped hcrashed id k hh'
  | inr heffect =>
    obtain ⟨hfinish, hstarted⟩ := hc h' k heffect
    rw [hfinish, hstarted]
    exact hR hstopped hcrashed id h' hh'

theorem Timed.step (hfresh : R.Fresh) (hR : R.Timed) (h : R.Step cap kind calls R')
    (hepoch : AfterEpoch calls) : R'.Timed := by
  have hkeep (hstage : R.stage = .idle ∨ (∃ id h, R.stage = .building id h) ∨
      ∃ id, R.stage = .announcing id) (stage : Stage) (paused : Bool) :
      Timed ⟨R.installed, stage, paused⟩ := fun _ _ id k hk => .inl (hR.pos hstage hk)
  cases h with
  | keep => exact hR
  | resume => exact hR
  | cut => exact hR
  | clear =>
    intro _ _ id k hk
    cases hk
  | release h _ =>
    apply hR.onInstalled h ?_ rfl
    intro h k hk
    obtain rfl := Option.some.inj hk
    unfold AttractionHandler.releaseClients
    split <;> exact ⟨rfl, rfl⟩
  | stop =>
    intro hstopped
    exact absurd rfl hstopped
  | exits pid hidle h | cutExits pid hidle h =>
    apply hR.onInstalled h ?_ hidle.symm
    intro h k hk
    obtain rfl := Option.some.inj hk
    exact ⟨rfl, rfl⟩
  | finishes hidle h =>
    apply hR.onInstalled h ?_ hidle.symm
    intro h k hk
    cases hk
  | create _ _ hidle => exact hkeep (.inl hidle) _ _
  | admission _ _ _ hstage => exact hkeep (.inr (.inl ⟨_, _, hstage⟩)) _ _
  | discard hstage => exact hkeep (.inr (.inl ⟨_, _, hstage⟩)) _ _
  | @install i h hstage =>
    intro _ _ id k hk
    obtain ⟨rfl, rfl⟩ | ⟨-, hk⟩ := installed_of_update hk
    · exact .inr ⟨rfl, (hfresh id h hstage).2.2⟩
    · exact .inl (hR.pos (.inr (.inl ⟨_, _, hstage⟩)) hk)
  | @start i h now hstage hh =>
    have hold := hR (by simp [hstage]) (by simp [hstage])
    intro _ _ id k hk
    left
    obtain ⟨rfl, rfl⟩ | ⟨hid, hk⟩ := installed_of_update hk
    · have hnow := hepoch id now (List.mem_singleton_self _)
      obtain hpos | ⟨-, hstarted⟩ := hold id h hh
      · unfold AttractionHandler.startAttraction
        split
        · exact hpos
        · dsimp only
          omega
      · rw [AttractionHandler.startAttraction, hstarted]
        simp only [Bool.false_eq_true, if_false]
        omega
    · obtain hpos | ⟨hother, -⟩ := hold id k hk
      · exact hpos
      · exact absurd (Stage.starting.inj (hstage.symm.trans hother)).symm hid
  | announce hstage => exact hkeep (.inr (.inr ⟨_, hstage⟩)) _ _
  | crash =>
    intro _ hcrashed
    exact absurd rfl hcrashed

end Rounds

/-- In every run that reads its clock past the epoch, the rounds of a worker have finish times. -/
theorem RoundsProgram.timed_always {σ α : Type*} {W : RoundsProgram σ α} {s : σ} (hs : W.Starts s)
    {as : List α} (has : W.machine.Meets (fun s a => AfterEpoch (W.calls s a)) s as) :
    W.machine.Always (fun s => W.Valid s ∧ (W.rounds s).Timed) s as := by
  have hstart : (W.rounds s).Timed := by
    intro _ _ id h hh
    rw [hs.installed id] at hh
    cases hh
  apply Machine.always_of_meets (I := fun s => (W.Valid s ∧ (W.rounds s).Timed) ∧
    (W.rounds s).Fresh) (fun _ h => h.1) ?_ ⟨⟨hs.valid, hstart⟩, hs.fresh⟩ has
  intro s a t hinv hepoch h
  have hstep := W.step_rounds hinv.1.1 h
  exact ⟨⟨W.valid_step hinv.1.1 h, hinv.1.2.step hinv.2 hstep hepoch⟩, hinv.2.step hstep⟩

end Worker

/-! ## The earliest finish time -/

namespace Attraction
open Worker

namespace HandlerMap

/-- The finish times of the installed handlers. -/
def finishTimes (m : HandlerMap) : Set ℤ := {t | ∃ e ∈ m, ∃ h ∈ e.2, h.finishTime = t}

/-- A non-empty set of handlers that have been started. -/
structure Running (m : HandlerMap) : Prop where
  nonempty : ∃ e ∈ m, e.2.isSome = true
  finishTime : ∀ e ∈ m, ∀ h ∈ e.2, 0 < h.finishTime

/-- `nextTimeout` after the loop of `pGetNextTimeout` has seen the finish times `T`. -/
def Tracks (nextTimeout : ℤ) (T : Set ℤ) : Prop :=
  (nextTimeout = -1 ∧ T = ∅) ∨ (0 < nextTimeout ∧ IsLeast T nextTimeout)

theorem Tracks.earlier {nextTimeout timeout : ℤ} {T : Set ℤ} (h : Tracks nextTimeout T)
    (htimeout : 0 < timeout) :
    Tracks (HandlerMap.earlier nextTimeout timeout) (insert timeout T) := by
  right
  obtain ⟨rfl, rfl⟩ | ⟨hpos, hleast⟩ := h
  · have heq : HandlerMap.earlier (-1) timeout = timeout := by
      rw [HandlerMap.earlier, if_neg htimeout.ne', if_pos rfl]
    rw [heq, insert_empty_eq]
    exact ⟨htimeout, isLeast_singleton⟩
  · have heq : HandlerMap.earlier nextTimeout timeout = min timeout nextTimeout := by
      rw [HandlerMap.earlier, if_neg htimeout.ne', if_neg (by omega)]
      split <;> omega
    rw [heq]
    exact ⟨lt_min htimeout hpos, hleast.insert timeout⟩

theorem finishTimes_cons_none (id : ℕ) (m : HandlerMap) :
    finishTimes ((id, none) :: m) = finishTimes m := by
  ext t
  simp [finishTimes]

theorem finishTimes_cons_some (id : ℕ) (h : AttractionHandler) (m : HandlerMap) :
    finishTimes ((id, some h) :: m) = insert h.finishTime (finishTimes m) := by
  ext t
  simp [finishTimes, eq_comm]

/-- The loop of `pGetNextTimeout` from any point on. -/
theorem Tracks.foldl {m : HandlerMap} {nextTimeout : ℤ} {T : Set ℤ} (h : Tracks nextTimeout T)
    (hm : ∀ e ∈ m, ∀ h ∈ e.2, 0 < h.finishTime) :
    Tracks (m.foldl (fun nextTimeout e => match e.2 with
      | none => nextTimeout
      | some handler => HandlerMap.earlier nextTimeout handler.finishTime) nextTimeout)
      (T ∪ m.finishTimes) := by
  induction m generalizing nextTimeout T with
  | nil => simpa [finishTimes] using h
  | cons e m ih =>
    have hrest := (List.forall_mem_cons.mp hm).2
    obtain ⟨id, handler⟩ := e
    cases handler with
    | none =>
      rw [finishTimes_cons_none]
      exact ih h hrest
    | some handler =>
      have hpos := (List.forall_mem_cons.mp hm).1 handler rfl
      rw [finishTimes_cons_some, Set.union_insert, ← Set.insert_union]
      exact ih (h.earlier hpos) hrest

/-- Among started handlers the loop finds the earliest finish time. -/
theorem Running.isLeast {m : HandlerMap} (h : m.Running) :
    IsLeast m.finishTimes m.earliestFinish := by
  have htracks := Tracks.foldl (.inl ⟨rfl, rfl⟩) h.finishTime
  rw [Set.empty_union] at htracks
  obtain ⟨-, hempty⟩ | ⟨-, hleast⟩ := htracks
  · obtain ⟨e, he, hsome⟩ := h.nonempty
    obtain ⟨handler, hhandler⟩ := Option.isSome_iff_exists.mp hsome
    have hmem : handler.finishTime ∈ m.finishTimes := ⟨e, he, handler, hhandler, rfl⟩
    rw [hempty] at hmem
    cases hmem
  · exact hleast

theorem Running.earliestFinish_pos {m : HandlerMap} (h : m.Running) : 0 < m.earliestFinish := by
  obtain ⟨e, he, handler, hhandler, heq⟩ := h.isLeast.1
  rw [← heq]
  exact h.finishTime e he handler hhandler

end HandlerMap

theorem AttractionProc.pGetNextTimeout_of_running {p : AttractionProc} (h : p.handlers.Running)
    (now : ℤ) : p.pGetNextTimeout now = p.handlers.earliestFinish - now := by
  rw [pGetNextTimeout]
  have hpos := h.earliestFinish_pos
  exact if_pos (by omega)

/-- In every run that reads its clock past the epoch, the handlers at the loop head are started
ones, so each timeout is computed from a set of running rounds or from none. -/
theorem AttractionSystem.running_always {C : Type*} [DecidableEq C] {cfg : AttractionConfig}
    (hcount : cfg.handlerCount < 2 ^ 8) (attractionID tokens : ℕ) {as : List (AttractionAction C)}
    (has : (machine C cfg).Meets (fun s a => AfterEpoch (s.handlerCalls cfg a))
      (.init attractionID cfg tokens) as) :
    (machine C cfg).Always (fun s => s.point = .loopHead →
      (∃ e ∈ s.proc.handlers, e.2.isSome = true) → s.proc.handlers.Running)
      (.init attractionID cfg tokens) as := by
  apply (RoundsProgram.timed_always (start_starts attractionID hcount tokens (.ok ())) has).mono
  intro s hs hpoint hnonempty
  refine ⟨hnonempty, ?_⟩
  intro e he h hh
  have hidle : s.rounds.stage = .idle := by
    rw [rounds_stage, hpoint]
    rfl
  obtain ⟨id, handler⟩ := e
  obtain rfl : handler = some h := hh
  exact hs.2.pos (.inl hidle) (HandlerMap.get_of_mem hs.1.nodup he)

end Attraction

/-! ## The wait of a running worker -/

/-- The `Wait` has a timeout, and where the time left fits into an `int`, it ends by `finish`. -/
structure EndsBy (r : Ipc.SemRequest) (finish now : ℤ) : Prop where
  limited : r.timeout ≠ -1
  deadline : -2 ^ 31 ≤ finish - now → finish - now < 2 ^ 31 → r.deadline now = some finish

theorem eventWait_endsBy_iff (semID finish now : ℤ) :
    EndsBy (.eventWait semID (finish - now)) finish now ↔ ¬ OneSecondLate finish now := by
  constructor
  · intro h
    exact mt (eventWait_unlimited_iff semID finish now).mpr h.limited
  · intro h
    exact ⟨mt (eventWait_unlimited_iff semID finish now).mp h,
      fun hlow hhigh => eventWait_deadline semID hlow hhigh h⟩

/-- The `Wait` of an attraction that runs rounds, and of a restaurant that runs one, ends by the
earliest finish time, unless the clock is one second past it; then it has no timeout. -/
theorem nextTimeout_endsBy_iff (semID now : ℤ) :
    (∀ p : Attraction.AttractionProc, p.handlers.Running →
      ∃ finish, IsLeast p.handlers.finishTimes finish ∧
        (EndsBy (.eventWait semID (p.pGetNextTimeout now)) finish now ↔
          ¬ OneSecondLate finish now)) ∧
    ∀ (r : Restaurant.RestaurantProc) (handler : Worker.AttractionHandler),
      r.handler = some handler →
        (EndsBy (.eventWait semID (r.pGetNextTimeout now)) handler.finishTime now ↔
          ¬ OneSecondLate handler.finishTime now) := by
  constructor
  · intro p hp
    refine ⟨p.handlers.earliestFinish, hp.isLeast, ?_⟩
    rw [Attraction.AttractionProc.pGetNextTimeout_of_running hp]
    exact eventWait_endsBy_iff semID _ now
  · intro r handler hr
    rw [Restaurant.RestaurantProc.pGetNextTimeout, hr]
    exact eventWait_endsBy_iff semID _ now

/-- A round that has been started at 1 and ends at 31. -/
def roundUntil31 : Worker.AttractionHandler :=
  (Worker.AttractionHandler.construct ⟨20, 20, 30, false⟩).startAttraction 1

/-- Ten seconds before its end the round is waited for until then. -/
theorem roundUntil31_endsBy :
    (∃ finish, IsLeast (Attraction.HandlerMap.finishTimes [(20, some roundUntil31)]) finish ∧
      EndsBy (.eventWait 3 (Attraction.AttractionProc.pGetNextTimeout 21
        ⟨0, [(20, some roundUntil31)], [], false⟩)) finish 21) ∧
    EndsBy (.eventWait 19 (Restaurant.RestaurantProc.pGetNextTimeout 21
      ⟨some roundUntil31, [], false, false⟩)) 31 21 := by
  have hlate : ¬ OneSecondLate 31 21 := by decide
  have hrunning : Attraction.HandlerMap.Running [(20, some roundUntil31)] := by
    refine ⟨⟨_, List.mem_singleton_self _, rfl⟩, ?_⟩
    intro e he h hh
    obtain rfl := List.mem_singleton.mp he
    obtain rfl := Option.some.inj hh
    decide
  constructor
  · obtain ⟨finish, hleast, hends⟩ := (nextTimeout_endsBy_iff 3 21).1
      ⟨0, [(20, some roundUntil31)], [], false⟩ hrunning
    refine ⟨finish, hleast, hends.mpr ?_⟩
    obtain ⟨e, he, h, hh, rfl⟩ := hleast.1
    obtain rfl := List.mem_singleton.mp he
    obtain rfl := Option.some.inj hh
    exact hlate
  · exact ((nextTimeout_endsBy_iff 19 21).2 ⟨some roundUntil31, [], false, false⟩ roundUntil31
      rfl).mpr hlate

/-- A round of A1 from 1 to 31. A signal ends the wait at 30, and the queue stays empty for the
two seconds that `ReceiveMessage` waits. -/
def interruptedLateRun : List (Attraction.AttractionAction Unit) :=
  [.mailbox (.send () 0 Attraction.entryRequest), .mailbox (.signal ()), .check 0, .wake true,
    .finishCheck 0, .testPaused, .handle, .decide, .create, .register (.faultless 7 1),
    .register (.faultless 7 1), .install, .start 1, .announce (.ok ()), .create, .check 1,
    .wake false, .finishCheck 30, .testPaused, .handle, .decide, .create, .check 32]

/-- A round of the restaurant from 1 to 61. It is paused, so the handler is not dropped at 61. -/
def pausedLateRun : List (Restaurant.RestaurantAction Unit) :=
  [.mailbox (.send () 0 tableRequest), .mailbox (.signal ()), .check 0, .wake true,
    .finishCheck 0, .handle (.faultless 7 1), .decide, .register (.faultless 7 1),
    .register (.faultless 7 1), .install, .start 1, .announce (.ok ()), .check 1,
    .sigUsr1 (.ok ()), .wake false, .finishCheck 61, .handle (.faultless 7 61), .decide, .check 62]

/-- Both workers then wait without a timeout, a second after their round is over. -/
theorem lateRuns_wait_unlimited :
    (∃ s, (Attraction.AttractionSystem.machine Unit ⟨30, 20, 1, true, 120, -1, -1, -1⟩).exec
        (.init 0 ⟨30, 20, 1, true, 120, -1, -1, -1⟩ 0) interruptedLateRun = some s ∧
      s.point = .waiting (-1) ∧ s.proc.handlers.earliestFinish = 31) ∧
    (∃ s, (Restaurant.RestaurantSystem.machine Unit ⟨60, 50, 1, true, -1, -1, -1, -1⟩).exec
        (.init 0) pausedLateRun = some s ∧
      s.point = .waiting (-1) ∧ ∃ h, s.proc.handler = some h ∧ h.finishTime = 61) ∧
    (Ipc.SemRequest.eventWait 3 (-1)).timeout = -1 ∧
    ((Ipc.SemRequest.eventWait 3 (-1)).semSignal Ipc.SemRequest.someArray (fun _ => 32)
      [.success]).calls = [⟨-1, false, none, .success⟩] := by
  refine ⟨⟨_, rfl, rfl, rfl⟩, ⟨_, rfl, rfl, _, rfl, rfl⟩, ?_, ?_⟩ <;> decide

end AmusementPark
