import AmusementPark.Main.Pause

/-! # Pausing the client generation

The handlers of the two threads set and close what `Run` tests, clears and waits
for. A `SIGUSR1` between the test of the flag and its clearing is lost, one that
interrupts the wait of `Run` ends it, and on the thread of the logger the flag
may be set while `Run` is between the two.
-/
namespace AmusementPark.Main
open Library

/-- Not a `SIGUSR1` on one thread and a `SIGUSR2` on the other. -/
def ManagerSignal.Apart (signal other : ManagerSignal) : Prop :=
  (signal = .sigUsr1 → other ≠ .sigUsr2) ∧ (signal = .sigUsr2 → other ≠ .sigUsr1)

instance (signal : ManagerSignal) : DecidablePred signal.Apart :=
  fun _ => inferInstanceAs (Decidable (_ ∧ _))

theorem ManagerSignal.Apart.symm {x y : ManagerSignal} (h : x.Apart y) : y.Apart x :=
  ⟨fun hy hx => h.2 hx hy, fun hy hx => h.1 hx hy⟩

namespace ThreadedManager
open Manager

/-- The count of the clients, whichever thread handles the signals. -/
def countStarted (n : Option ℕ) (s : ThreadedManager) (a : ThreadedAction)
    (_ : ThreadedManager) : Option ℕ :=
  match a with
  | .run a => Manager.countStarted n s.manager a
  | .loggerDeliver signal => if signal = .sigUsr2 then none else n
  | .loggerCall => if s.loggerCalls.head?.map (·.point) = some .setPaused then some (n.getD 0)
      else n

def countingMachine : Machine (ThreadedManager × Option ℕ) ThreadedAction :=
  machine.observe countStarted

/-- While the park is open, at most one client has been started since the `SIGUSR1`. -/
def PauseHolds (p : ThreadedManager × Option ℕ) : Prop :=
  p.1.manager.isOpen = true → ∀ n ∈ p.2, n ≤ 1

instance : DecidablePred PauseHolds := fun _ => inferInstanceAs (Decidable (_ → _))

/-- In an open park a `SIGUSR1` interrupts `Run` neither while it is blocked in the pause, nor
between the test of the flag and its clearing, and the other thread does not set the flag in
between; no handlers of `SIGUSR1` and `SIGUSR2` are active at once, unless the former is
interrupted before it closes the semaphore. -/
def PauseUndisturbed (p : ThreadedManager × Option ℕ) : ThreadedAction → Prop
  | .run (.deliver signal) => p.1.manager.isOpen = true → signal.Nests p.1.manager.calls ∧
      (∀ c ∈ p.1.loggerCalls, signal.Apart c.signal) ∧
      (signal = .sigUsr1 → p.1.manager.point.Heeds)
  | .loggerDeliver signal => p.1.manager.isOpen = true → signal.Nests p.1.loggerCalls ∧
      ∀ c ∈ p.1.manager.calls, signal.Apart c.signal
  | .loggerCall => p.1.manager.isOpen = true →
      p.1.loggerCalls.head?.map (·.point) = some .setPaused → p.1.manager.point ≠ .clearPaused
  | _ => True

instance decidablePauseUndisturbed (p : ThreadedManager × Option ℕ) :
    ∀ a, Decidable (PauseUndisturbed p a)
  | .run (.deliver _) | .loggerDeliver _ | .loggerCall => inferInstanceAs (Decidable (_ → _))
  | .run .main | .run (.fork _) | .run .forkFails | .run .logThrows | .run (.exits _)
  | .run (.others _) => isTrue trivial

variable {s t : ThreadedManager} {n : Option ℕ}

/-- The two threads of an open park whose pauses are not disturbed. -/
structure PauseInvariant (s : ThreadedManager) (n : Option ℕ) : Prop where
  run : s.manager.PauseInvariant n
  early : ∀ d ∈ s.loggerCalls, d.Early
  order : s.loggerCalls.Pairwise SignalCall.Above
  apart : ∀ c ∈ s.manager.calls, ∀ d ∈ s.loggerCalls, c.signal.Apart d.signal
  armed : ∀ d ∈ s.loggerCalls, d.point = .setPaused → s.manager.point.inRun = true →
    s.manager.pauseValue = 0
  resuming : ∀ d ∈ s.loggerCalls, d.signal = .sigUsr2 → n = none

/-- A step of the manager's own thread or of another process. -/
theorem PauseInvariant.run_step (hs : s.PauseInvariant n) {a : ManagerAction}
    (ha : ∀ signal, a = .deliver signal → signal.Nests s.manager.calls ∧
      (∀ d ∈ s.loggerCalls, signal.Apart d.signal) ∧ (signal = .sigUsr1 → s.manager.point.Heeds))
    {m : Manager} (h : s.manager.step a = some m) (hopen : m.isOpen = true) :
    PauseInvariant ⟨m, s.loggerCalls⟩ (Manager.countStarted n s.manager a) where
  run := hs.run.step (fun signal hdeliver => (ha signal hdeliver).imp_right And.right) h hopen
  early := hs.early
  order := hs.order
  apart c hc d hd := by
    obtain ⟨b, hb, hsignal⟩ | hdeliver := Manager.signal_of_step h hc
    · rw [hsignal]
      exact hs.apart b hb d hd
    · exact (ha c.signal hdeliver).2.1 d hd
  armed d hd hset hrun := by
    obtain ⟨hran, hle | ⟨c, hc, husr2⟩⟩ := hs.run.pauseValue_step h hrun
    · exact Nat.le_zero.mp (hs.armed d hd hset hran ▸ hle)
    · exact absurd ((hs.early d hd).sigUsr1 hset) ((hs.apart c hc d hd).2 husr2)
  resuming d hd husr2 := by
    have hnone := hs.resuming d hd husr2
    subst hnone
    cases a with
    | main =>
      -- no SIGUSR1 is handled beside the SIGUSR2
      refine if_neg fun hhead => ?_
      obtain ⟨c, hcalls, hset⟩ := Option.map_eq_some_iff.mp hhead
      have hc := List.mem_of_head? hcalls
      exact (hs.apart c hc d hd).1 ((hs.run.early c hc).sigUsr1 hset) husr2
    | deliver signal => exact ite_self _
    | _ => rfl

/-- A handler begins on the thread of the logger. -/
theorem PauseInvariant.deliver_step (hs : s.PauseInvariant n) {signal : ManagerSignal}
    (hnests : signal.Nests s.loggerCalls)
    (hapart : ∀ c ∈ s.manager.calls, signal.Apart c.signal) :
    PauseInvariant ⟨s.manager,
        ⟨signal, signal.entry⟩ :: s.loggerCalls.modifyHead SignalCall.interrupted⟩
      (if signal = .sigUsr2 then none else n) where
  run := by
    split
    · exact hs.run.forget
    · exact hs.run
  early d hd := by
    obtain rfl | hd := List.mem_cons.mp hd
    · exact early_entry signal
    · exact early_below hs.early d hd
  order := order_deliver hs.order hnests
  apart c hc d hd := by
    obtain rfl | hd := List.mem_cons.mp hd
    · exact (hapart c hc).symm
    · obtain ⟨e, he, hsignal, -⟩ := below_interrupted hd
      rw [hsignal]
      exact hs.apart c hc e he
  armed d hd hset := by
    obtain rfl | hd := List.mem_cons.mp hd
    · cases signal <;> cases hset
    · obtain ⟨e, he, -, hpoint⟩ := below_interrupted hd
      exact hs.armed e he (hpoint.mp hset)
  resuming d hd husr2 := by
    obtain rfl | hd := List.mem_cons.mp hd
    · exact if_pos husr2
    · obtain ⟨e, he, hsignal, -⟩ := below_interrupted hd
      rw [hs.resuming e he (hsignal ▸ husr2), ite_self]

variable {c d : SignalCall} {rest : List SignalCall} {m : Manager}

/-- The innermost handler of the logger's thread moves on. -/
theorem PauseInvariant.move (hs : s.PauseInvariant n) (hcalls : s.loggerCalls = c :: rest)
    (hrun : m.PauseInvariant n) (hsignal : d.signal = c.signal) (hearly : d.Early)
    (hmcalls : m.calls = s.manager.calls) (hpoint : m.point = s.manager.point)
    (hvalue : m.pauseValue = s.manager.pauseValue ∨ m.pauseValue = 0)
    (harmed : d.point = .setPaused → m.pauseValue = 0) :
    PauseInvariant ⟨m, d :: rest⟩ n where
  run := hrun
  early e he := by
    obtain rfl | he := List.mem_cons.mp he
    · exact hearly
    · exact hs.early e (hcalls ▸ List.mem_cons_of_mem _ he)
  order := order_move hsignal (hcalls ▸ hs.order)
  apart b hb e he := by
    have hb' : b ∈ s.manager.calls := hmcalls ▸ hb
    obtain rfl | he := List.mem_cons.mp he
    · rw [hsignal]
      exact hs.apart b hb' c (hcalls ▸ List.mem_cons_self ..)
    · exact hs.apart b hb' e (hcalls ▸ List.mem_cons_of_mem _ he)
  armed e he hset hinRun := by
    obtain rfl | he := List.mem_cons.mp he
    · exact harmed hset
    · have hzero := hs.armed e (hcalls ▸ List.mem_cons_of_mem _ he) hset (hpoint ▸ hinRun)
      exact hvalue.elim (fun h => h.trans hzero) id
  resuming e he husr2 := by
    obtain rfl | he := List.mem_cons.mp he
    · exact hs.resuming c (hcalls ▸ List.mem_cons_self ..) (hsignal ▸ husr2)
    · exact hs.resuming e (hcalls ▸ List.mem_cons_of_mem _ he) husr2

/-- `HandleSigusr1` returns on the thread of the logger. -/
theorem PauseInvariant.setPaused (hs : s.PauseInvariant n) (hcalls : s.loggerCalls = c :: rest)
    (hpoint : c.point = .setPaused) (hclear : s.manager.point ≠ .clearPaused) :
    PauseInvariant ⟨{ s.manager with paused := true }, rest⟩ (some (n.getD 0)) := by
  have hmem : c ∈ s.loggerCalls := by simp [hcalls]
  have hrest (e : SignalCall) (he : e ∈ rest) : e ∈ s.loggerCalls := by simp [hcalls, he]
  have husr1 := (hs.early c hmem).sigUsr1 hpoint
  have horder := hs.order
  rw [hcalls, List.pairwise_cons] at horder
  constructor
  · constructor
    · exact hs.run.early
    · exact hs.run.order
    · exact hs.run.blocked
    · exact hs.run.armed
    · exact fun b hb husr2 => absurd husr1 ((hs.apart b hb c hmem).2 husr2)
    · rintro k ⟨rfl⟩
      cases n with
      | none => exact Nat.zero_le 1
      | some k => exact hs.run.count k rfl
    · rintro k ⟨rfl⟩ hstops hinRun
      refine ⟨rfl, hs.armed c hmem hpoint hinRun, hclear, fun hstarts => ?_⟩
      cases n with
      | none => rfl
      | some k => exact (hs.run.held k rfl hstops hinRun).2.2.2 hstarts
  · exact fun e he => hs.early e (hrest e he)
  · exact horder.2
  · exact fun b hb e he => hs.apart b hb e (hrest e he)
  · exact fun e he => hs.armed e (hrest e he)
  · exact fun e he husr2 => absurd husr2 ((horder.1 e he).1 husr1)

/-- `HandleSigusr2` returns on the thread of the logger. -/
theorem PauseInvariant.resumePause (hs : s.PauseInvariant n)
    (hcalls : s.loggerCalls = c :: rest) (hpoint : c.point = .resumePause) :
    PauseInvariant ⟨{ s.manager with pauseValue := 1 }, rest⟩ n := by
  have hmem : c ∈ s.loggerCalls := by simp [hcalls]
  have hrest (e : SignalCall) (he : e ∈ rest) : e ∈ s.loggerCalls := by simp [hcalls, he]
  have husr2 := (hs.early c hmem).sigUsr2 hpoint
  have hnone := hs.resuming c hmem husr2
  have horder := hs.order
  rw [hcalls, List.pairwise_cons] at horder
  constructor
  · constructor
    · exact hs.run.early
    · exact hs.run.order
    · exact hs.run.blocked
    · exact fun b hb husr1 => absurd husr2 ((hs.apart b hb c hmem).1 husr1)
    · exact hs.run.resuming
    · exact hs.run.count
    · simp [hnone]
  · exact fun e he => hs.early e (hrest e he)
  · exact horder.2
  · exact fun b hb e he => hs.apart b hb e (hrest e he)
  · exact fun e he hset => absurd hset ((horder.1 e he).2 husr2)
  · exact fun e he => hs.resuming e (hrest e he)

/-- A step of a handler on the thread of the logger that leaves the park open. -/
theorem PauseInvariant.call_step (hs : s.PauseInvariant n) (hcalls : s.loggerCalls = c :: rest)
    (hclear : c.point = .setPaused → s.manager.point ≠ .clearPaused)
    (h : s.manager.stepCall c rest = some m) (hopen : m.isOpen = true) :
    PauseInvariant ⟨{ m with calls := s.manager.calls }, m.calls⟩
      (if c.point = .setPaused then some (n.getD 0) else n) := by
  have hearly := hs.early c (by simp [hcalls])
  obtain ⟨early, order, blocked, armed, resuming, count, held⟩ := hs.run
  cases hpoint : c.point with
  | critical p =>
    rw [if_neg (by simp)]
    simp only [Manager.stepCall, hpoint, Option.map_eq_some_iff] at h
    obtain ⟨⟨q, isOpen, lock⟩, hstep, rfl⟩ := h
    obtain ⟨q', rfl, hq'⟩ := critical_next hstep hopen (hearly.ne_leaving hpoint)
    exact hs.move hcalls ⟨early, order, blocked, armed, resuming, count, held⟩ rfl
      (hearly.critical hpoint hq') rfl rfl (.inl rfl) (by simp)
  | closePause =>
    rw [if_neg (by simp)]
    simp only [Manager.stepCall, hpoint, Option.some.injEq] at h
    subst h
    refine hs.move hcalls ⟨early, order, blocked, ?_, resuming, count, ?_⟩ rfl
      (hearly.setPaused hpoint) rfl rfl (.inr rfl) fun _ => rfl
    · exact fun e he husr1 => ⟨(armed e he husr1).1, fun _ => rfl⟩
    · intro k hk hstops hinRun
      obtain ⟨hpaused, -, hrest⟩ := held k hk hstops hinRun
      exact ⟨hpaused, rfl, hrest⟩
  | setPaused =>
    rw [if_pos rfl]
    simp only [Manager.stepCall, hpoint, Option.some.injEq] at h
    subst h
    exact hs.setPaused hcalls hpoint (hclear hpoint)
  | resumePause =>
    rw [if_neg (by simp)]
    simp only [Manager.stepCall, hpoint, Option.some.injEq] at h
    subst h
    exact hs.resumePause hcalls hpoint
  | killCashier | killRestaurant | signalLoops | openPause =>
    cases hsignal : c.signal <;> simp [SignalCall.Early, hsignal, hpoint] at hearly

/-! ## Runs -/

/-- A step to an open park comes from an open park and keeps the invariant. -/
theorem PauseInvariant.step {a : ThreadedAction}
    (hs : s.manager.isOpen = true → s.PauseInvariant n) (ha : PauseUndisturbed (s, n) a)
    (h : s.step a = some t) (hopen : t.manager.isOpen = true) :
    t.PauseInvariant (countStarted n s a t) := by
  cases a with
  | run a =>
    simp only [ThreadedManager.step, Option.ite_none_left_eq_some, Option.map_eq_some_iff] at h
    obtain ⟨-, m, hstep, rfl⟩ := h
    have hsopen := step_isOpen hstep hopen
    refine (hs hsopen).run_step (fun signal hdeliver => ?_) hstep hopen
    subst hdeliver
    exact ha hsopen
  | loggerDeliver signal =>
    simp only [ThreadedManager.step, Option.ite_none_left_eq_some, Option.some.injEq] at h
    obtain ⟨-, rfl⟩ := h
    obtain ⟨hnests, hapart⟩ := ha hopen
    exact (hs hopen).deliver_step hnests hapart
  | loggerCall =>
    cases hcalls : s.loggerCalls with
    | nil => simp [ThreadedManager.step, hcalls] at h
    | cons c rest =>
      simp only [ThreadedManager.step, hcalls, Option.map_eq_some_iff] at h
      obtain ⟨m, hstep, rfl⟩ := h
      have hsopen := stepCall_isOpen hstep hopen
      have hcount : countStarted n s .loggerCall ⟨{ m with calls := s.manager.calls }, m.calls⟩ =
          if c.point = .setPaused then some (n.getD 0) else n := by
        simp [countStarted, hcalls]
      rw [hcount]
      refine (hs hsopen).call_step hcalls (fun hset => ?_) hstep hopen
      exact ha hsopen (by simp [hcalls, hset])

theorem pauseInvariant_started (lock : ℕ) (children : Finset Pid) :
    (started lock children).PauseInvariant none where
  run := Manager.pauseInvariant_started lock children
  early _ hd := by cases hd
  order := .nil
  apart _ _ _ hd := by cases hd
  armed _ hd := by cases hd
  resuming _ hd := by cases hd

/-- In every run with undisturbed pauses, `Run` starts at most one client between a `SIGUSR1` and
the next `SIGUSR2` or the closing of the park, whichever thread handles the signals. -/
theorem pauseHolds_of_undisturbed (lock : ℕ) (children : Finset Pid) (as : List ThreadedAction)
    (has : countingMachine.Meets PauseUndisturbed (started lock children, none) as) :
    countingMachine.Always PauseHolds (started lock children, none) as := by
  apply Machine.always_of_meets
    (I := fun p => p.1.manager.isOpen = true → p.1.PauseInvariant p.2) ?_ ?_ ?_ has
  · exact fun p hp hopen => (hp hopen).run.count
  · intro p a q hp ha h
    obtain ⟨hstep, hcount⟩ := Machine.observe_step.mp h
    intro hopen
    rw [← hcount]
    exact PauseInvariant.step hp ha hstep hopen
  · exact fun _ => pauseInvariant_started lock children

/-- Two whole pauses: the first `SIGUSR1` on the thread of the manager and its `SIGUSR2` on that
of the logger, the second the other way round. -/
def pauseAndResume : List ThreadedAction :=
  [.run .main, .run (.fork 101), .run (.deliver .sigUsr1), .run .main, .run .main, .run .main,
    .run .main, .run .main, .loggerDeliver .sigUsr2, .loggerCall, .run .main, .run .main,
    .run .main, .run (.fork 102), .loggerDeliver .sigUsr1, .run .main, .loggerCall, .loggerCall,
    .run .main, .run .main, .run (.deliver .sigUsr2), .run .main, .run .main, .run .main]

theorem pauseAndResume_holds :
    countingMachine.Always PauseHolds (started 1 ∅, none) pauseAndResume :=
  pauseHolds_of_undisturbed 1 ∅ pauseAndResume (by decide +kernel)

/-- Two rounds of `Run` with a client each, and no wait between them. -/
def twoRounds : List ThreadedAction :=
  [.run .main, .run .main, .run (.fork 102), .run .main, .run .main, .run .main, .run .main,
    .run (.fork 103)]

/-- A `SIGUSR1` between the test of the flag and its clearing. -/
def lostPause : List ThreadedAction :=
  [.run .main, .run (.fork 101), .run .main, .run .main, .run (.deliver .sigUsr1), .run .main,
    .run .main] ++ twoRounds

/-- A second `SIGUSR1` while `Run` waits after the first. -/
def endedPause : List ThreadedAction :=
  [.run .main, .run (.fork 101), .run (.deliver .sigUsr1), .run .main, .run .main, .run .main,
    .run .main, .run .main, .run (.deliver .sigUsr1), .run .main, .run .main] ++ twoRounds

/-- A `SIGUSR1` in the sleep of `Run`, whose handler sets the flag on the other thread after `Run`
has tested it. -/
def overtakenPause : List ThreadedAction :=
  [.run .main, .run (.fork 101), .loggerDeliver .sigUsr1, .loggerCall, .run .main, .run .main,
    .loggerCall] ++ twoRounds

/-- In each of the three `Run` starts two more clients. -/
theorem pause_disturbed :
    ¬ countingMachine.Always PauseHolds (started 1 ∅, none) lostPause ∧
      ¬ countingMachine.Always PauseHolds (started 1 ∅, none) endedPause ∧
      ¬ countingMachine.Always PauseHolds (started 1 ∅, none) overtakenPause := by
  decide +kernel

end ThreadedManager
end AmusementPark.Main
