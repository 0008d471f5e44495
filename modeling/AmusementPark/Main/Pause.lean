import AmusementPark.Main.ManagerRun

/-! # The pause on the thread of the manager

`HandleSigusr1` closes the semaphore of the pause and sets a flag, which `Run`
tests and then clears in separate steps. Where the handlers interrupt `Run` at
no point between the two and each other in no fatal order, the flag or the
closed semaphore holds `Run` back.
-/
namespace AmusementPark.Main

/-- The points at which `Run` is about to start a client, or will do so without a test of the
flag. -/
def LoopPoint.startsClient : LoopPoint → Bool
  | .testOpen | .create => true
  | _ => false

def LoopPoint.inRun : LoopPoint → Bool
  | .testOpen | .create | .sleep | .testPaused | .pauseWait | .pauseBlocked | .clearPaused => true
  | _ => false

namespace Manager

/-- The clients started since the first `SIGUSR1` that was handled after the last `SIGUSR2`;
without such a `SIGUSR1` there is no count. -/
def countStarted (n : Option ℕ) (s : Manager) (a : ManagerAction) : Option ℕ :=
  match a with
  | .main => if s.calls.head?.map (·.point) = some .setPaused then some (n.getD 0) else n
  | .fork _ => n.map (· + 1)
  | .deliver signal => if signal = .sigUsr2 then none else n
  | _ => n

end Manager

/-- A `SIGUSR1` does not interrupt `HandleSigusr2`, nor a `SIGUSR2` the `HandleSigusr1` that has
closed the semaphore. -/
def ManagerSignal.Nests (signal : ManagerSignal) (calls : List SignalCall) : Prop :=
  (signal = .sigUsr1 → .sigUsr2 ∉ calls.map (·.signal)) ∧
    (signal = .sigUsr2 → .setPaused ∉ calls.map (·.point))

instance (signal : ManagerSignal) : DecidablePred signal.Nests :=
  fun _ => inferInstanceAs (Decidable (_ ∧ _))

/-- `Run` is not blocked in the pause, nor between the test of the flag and its clearing. -/
def LoopPoint.Heeds (p : LoopPoint) : Prop := p ≠ .pauseBlocked ∧ p ≠ .clearPaused

instance : DecidablePred LoopPoint.Heeds := fun _ => inferInstanceAs (Decidable (_ ∧ _))

/-! ## The invariant of an open park -/

/-- The points at which a call of a handler can stand before it closes the park. -/
def SignalCall.Early (c : SignalCall) : Prop :=
  match c.signal with
  | .sigInt | .sigTerm => ∃ p, c.point = .critical p ∧ p ≠ .leaving
  | .sigUsr1 => c.point = .closePause ∨ c.point = .setPaused
  | .sigUsr2 => c.point = .resumePause

/-- What an inner call allows below it. -/
def SignalCall.Above (c d : SignalCall) : Prop :=
  (c.signal = .sigUsr1 → d.signal ≠ .sigUsr2) ∧ (c.signal = .sigUsr2 → d.point ≠ .setPaused)

theorem SignalCall.Early.sigUsr1 {c : SignalCall} (h : c.Early) (hpoint : c.point = .setPaused) :
    c.signal = .sigUsr1 := by
  cases hsignal : c.signal <;> simp [SignalCall.Early, hsignal, hpoint] at h ⊢

theorem SignalCall.Early.sigUsr2 {c : SignalCall} (h : c.Early)
    (hpoint : c.point = .resumePause) : c.signal = .sigUsr2 := by
  cases hsignal : c.signal <;> simp [SignalCall.Early, hsignal, hpoint] at h ⊢

theorem SignalCall.Early.ne_leaving {c : SignalCall} (h : c.Early) {p : LockPoint}
    (hpoint : c.point = .critical p) : p ≠ .leaving := by
  rintro rfl
  cases hsignal : c.signal <;> simp [SignalCall.Early, hsignal, hpoint] at h

theorem SignalCall.Early.critical {c : SignalCall} (h : c.Early) {p q : LockPoint}
    (hpoint : c.point = .critical p) (hq : q ≠ .leaving) :
    SignalCall.Early ⟨c.signal, .critical q⟩ := by
  cases hsignal : c.signal <;> simp [SignalCall.Early, hsignal, hpoint] at h ⊢
  · exact hq
  · exact hq

theorem SignalCall.Early.setPaused {c : SignalCall} (h : c.Early) (hpoint : c.point = .closePause) :
    SignalCall.Early ⟨c.signal, .setPaused⟩ := by
  cases hsignal : c.signal <;> simp [SignalCall.Early, hsignal, hpoint] at h ⊢

/-- Only a handler that has closed the park comes to the end of its critical section. -/
theorem critical_next {p : LockPoint} {isOpen isOpen' : Bool} {lock lock' : ℕ}
    {q : Option LockPoint} (h : p.step isOpen lock = some (q, isOpen', lock'))
    (hopen : isOpen' = true) (hp : p ≠ .leaving) : ∃ q', q = some q' ∧ q' ≠ .leaving := by
  cases p with
  | acquire =>
    simp only [LockPoint.step] at h
    split at h <;> obtain ⟨rfl, -⟩ := h
    · exact ⟨_, rfl, by simp⟩
    · exact ⟨_, rfl, by simp⟩
  | blocked =>
    simp only [LockPoint.step, Option.ite_none_right_eq_some, Option.some.injEq,
      Prod.mk.injEq] at h
    obtain ⟨-, rfl, -⟩ := h
    exact ⟨_, rfl, by simp⟩
  | executing =>
    obtain ⟨-, rfl, -⟩ := h
    cases hopen
  | leaving => exact absurd rfl hp

def SignalCall.stops (c : SignalCall) : Prop := c.signal = .sigInt ∨ c.signal = .sigTerm

namespace Manager

/-- The manager of an open park whose pauses are not disturbed, with the count of clients. -/
structure PauseInvariant (s : Manager) (n : Option ℕ) : Prop where
  early : ∀ c ∈ s.calls, c.Early
  order : s.calls.Pairwise SignalCall.Above
  blocked : s.point = .pauseBlocked → s.calls = []
  armed : ∀ c ∈ s.calls, c.signal = .sigUsr1 →
    s.point ≠ .clearPaused ∧ (c.point = .setPaused → s.pauseValue = 0)
  resuming : ∀ c ∈ s.calls, c.signal = .sigUsr2 → n = none
  count : ∀ k ∈ n, k ≤ 1
  held : ∀ k ∈ n, (∀ c ∈ s.calls, ¬ c.stops) → s.point.inRun = true →
    s.paused = true ∧ s.pauseValue = 0 ∧ s.point ≠ .clearPaused ∧
      (s.point.startsClient = true → k = 0)

variable {s t : Manager} {n : Option ℕ}

theorem pauseInvariant_started (lock : ℕ) (children : Finset Pid) :
    (started lock children).PauseInvariant none where
  early _ hc := by cases hc
  order := .nil
  blocked _ := rfl
  armed _ hc := by cases hc
  resuming _ hc := by cases hc
  count _ hk := by cases hk
  held _ hk := by cases hk

theorem PauseInvariant.forget (hs : s.PauseInvariant n) : s.PauseInvariant none where
  early := hs.early
  order := hs.order
  blocked := hs.blocked
  armed := hs.armed
  resuming _ _ _ := rfl
  count _ hk := by cases hk
  held _ hk := by cases hk

/-- A state in which no handler is active. -/
theorem pauseInvariant_outside (ht : t.calls = []) (hcount : ∀ k ∈ n, k ≤ 1)
    (hheld : ∀ k ∈ n, t.point.inRun = true → t.paused = true ∧ t.pauseValue = 0 ∧
      t.point ≠ .clearPaused ∧ (t.point.startsClient = true → k = 0)) : t.PauseInvariant n where
  early := by simp [ht]
  order := by simp [ht]
  blocked _ := ht
  armed := by simp [ht]
  resuming := by simp [ht]
  count := hcount
  held k hk _ := hheld k hk

/-- The steps of `Run` and `pCloseImpl`. -/
theorem PauseInvariant.stepLoop (hs : s.PauseInvariant n) (hcalls : s.calls = [])
    (h : s.stepLoop = some t) : t.PauseInvariant n := by
  have hheld (k : ℕ) (hk : k ∈ n) := hs.held k hk (by simp [hcalls])
  cases hpoint : s.point with
  | testOpen =>
    simp only [Manager.stepLoop, hpoint, Option.some.injEq] at h
    subst h
    refine pauseInvariant_outside hcalls hs.count fun k hk _ => ?_
    obtain ⟨hpaused, hvalue, -, hstarts⟩ := hheld k hk (by rw [hpoint]; rfl)
    refine ⟨hpaused, hvalue, ?_, fun _ => hstarts (by rw [hpoint]; rfl)⟩
    dsimp only
    split <;> simp
  | create | removed => simp [Manager.stepLoop, hpoint] at h
  | sleep =>
    simp only [Manager.stepLoop, hpoint, Option.some.injEq] at h
    subst h
    refine pauseInvariant_outside hcalls hs.count fun k hk _ => ?_
    obtain ⟨hpaused, hvalue, -, -⟩ := hheld k hk (by rw [hpoint]; rfl)
    exact ⟨hpaused, hvalue, by simp, fun h => (by cases h)⟩
  | testPaused =>
    simp only [Manager.stepLoop, hpoint, Option.some.injEq] at h
    subst h
    refine pauseInvariant_outside hcalls hs.count fun k hk _ => ?_
    obtain ⟨hpaused, hvalue, -, -⟩ := hheld k hk (by rw [hpoint]; rfl)
    refine ⟨hpaused, hvalue, ?_, fun h => ?_⟩
    · simp [hpaused]
    · simp [hpaused, LoopPoint.startsClient] at h
  | pauseWait =>
    simp only [Manager.stepLoop, hpoint, Option.some.injEq] at h
    subst h
    refine pauseInvariant_outside (by split <;> exact hcalls) hs.count fun k hk _ => ?_
    obtain ⟨hpaused, hvalue, -, -⟩ := hheld k hk (by rw [hpoint]; rfl)
    -- the semaphore is 0, so Run blocks
    rw [if_neg (by omega)]
    exact ⟨hpaused, hvalue, by simp, fun h => (by cases h)⟩
  | pauseBlocked =>
    simp only [Manager.stepLoop, hpoint, Option.ite_none_right_eq_some, Option.some.injEq] at h
    obtain ⟨hpos, rfl⟩ := h
    refine pauseInvariant_outside hcalls hs.count fun k hk _ => ?_
    obtain ⟨-, hvalue, -, -⟩ := hheld k hk (by rw [hpoint]; rfl)
    omega
  | clearPaused =>
    simp only [Manager.stepLoop, hpoint, Option.some.injEq] at h
    subst h
    refine pauseInvariant_outside hcalls hs.count fun k hk _ => ?_
    obtain ⟨-, -, hclear, -⟩ := hheld k hk (by rw [hpoint]; rfl)
    exact absurd hpoint hclear
  | closing p =>
    simp only [Manager.stepLoop, hpoint, Option.map_eq_some_iff] at h
    obtain ⟨⟨q, isOpen, lock⟩, -, rfl⟩ := h
    refine pauseInvariant_outside hcalls hs.count fun k _ hrun => ?_
    cases q <;> cases hrun
  | callWait =>
    simp only [Manager.stepLoop, hpoint, Option.some.injEq] at h
    subst h
    refine pauseInvariant_outside hcalls hs.count fun k _ hrun => ?_
    dsimp only at hrun
    split at hrun <;> cases hrun
  | waiting =>
    simp only [Manager.stepLoop, hpoint, Option.ite_none_right_eq_some, Option.some.injEq] at h
    obtain ⟨-, rfl⟩ := h
    exact pauseInvariant_outside hcalls hs.count fun k _ hrun => (by cases hrun)
  | signalLoops | openPause | sendEnd | join =>
    simp only [Manager.stepLoop, hpoint, Option.some.injEq] at h
    subst h
    exact pauseInvariant_outside hcalls hs.count fun k _ hrun => (by cases hrun)

theorem PauseInvariant.fork (hs : s.PauseInvariant n) (hcalls : s.calls = [])
    (hpoint : s.point = .create) (pid : Pid) :
    PauseInvariant { s with point := .sleep, children := insert pid s.children }
      (n.map (· + 1)) := by
  have hstarted : ∀ k ∈ n.map (· + 1), k = 1 ∧ s.paused = true ∧ s.pauseValue = 0 := by
    intro k hk
    obtain ⟨m, hm, rfl⟩ := Option.map_eq_some_iff.mp hk
    obtain ⟨hpaused, hvalue, -, hstarts⟩ := hs.held m hm (by simp [hcalls]) (by rw [hpoint]; rfl)
    exact ⟨by rw [hstarts (by rw [hpoint]; rfl)], hpaused, hvalue⟩
  refine pauseInvariant_outside hcalls (fun k hk => (hstarted k hk).1.le) fun k hk _ => ?_
  obtain ⟨-, hpaused, hvalue⟩ := hstarted k hk
  exact ⟨hpaused, hvalue, by simp, fun h => (by cases h)⟩

/-! ## The handlers -/

variable {c d : SignalCall} {rest : List SignalCall}

theorem order_move (hsignal : d.signal = c.signal)
    (h : (c :: rest).Pairwise SignalCall.Above) : (d :: rest).Pairwise SignalCall.Above := by
  rw [List.pairwise_cons] at h ⊢
  refine ⟨fun e he => ?_, h.2⟩
  rw [SignalCall.Above, hsignal]
  exact h.1 e he

/-- The innermost handler moves on; if it closes the semaphore, so much the better. -/
theorem PauseInvariant.move (hs : s.PauseInvariant n) (hcalls : s.calls = c :: rest)
    (hsignal : d.signal = c.signal) (hearly : d.Early) (htcalls : t.calls = d :: rest)
    (hpoint : t.point = s.point) (hpaused : t.paused = s.paused)
    (hvalue : t.pauseValue = s.pauseValue ∨ t.pauseValue = 0)
    (harmed : d.point = .setPaused → t.pauseValue = 0) : t.PauseInvariant n := by
  have hmem : c ∈ s.calls := by simp [hcalls]
  have hrest (e : SignalCall) (he : e ∈ rest) : e ∈ s.calls := by simp [hcalls, he]
  have hzero (h : s.pauseValue = 0) : t.pauseValue = 0 := hvalue.elim (fun h' => h'.trans h) id
  constructor
  · intro e he
    obtain rfl | he := List.mem_cons.mp (htcalls ▸ he)
    · exact hearly
    · exact hs.early e (hrest e he)
  · rw [htcalls]
    exact order_move hsignal (hcalls ▸ hs.order)
  · intro hblocked
    have hnone := hs.blocked (hpoint ▸ hblocked)
    rw [hcalls] at hnone
    cases hnone
  · intro e he husr1
    rw [hpoint]
    obtain rfl | he := List.mem_cons.mp (htcalls ▸ he)
    · exact ⟨(hs.armed c hmem (hsignal ▸ husr1)).1, harmed⟩
    · obtain ⟨hclear, hset⟩ := hs.armed e (hrest e he) husr1
      exact ⟨hclear, fun h => hzero (hset h)⟩
  · intro e he husr2
    obtain rfl | he := List.mem_cons.mp (htcalls ▸ he)
    · exact hs.resuming c hmem (hsignal ▸ husr2)
    · exact hs.resuming e (hrest e he) husr2
  · exact hs.count
  · intro k hk hstops hrun
    have hnostop : ∀ e ∈ s.calls, ¬ e.stops := by
      rw [htcalls, List.forall_mem_cons, SignalCall.stops, hsignal] at hstops
      rw [hcalls]
      exact List.forall_mem_cons.mpr hstops
    rw [hpoint, hpaused]
    obtain ⟨hflag, hval, hclear, hstarts⟩ := hs.held k hk hnostop (hpoint ▸ hrun)
    exact ⟨hflag, hzero hval, hclear, hstarts⟩

/-- `HandleSigusr1` returns. -/
theorem PauseInvariant.setPaused (hs : s.PauseInvariant n) (hcalls : s.calls = c :: rest)
    (hsignal : c.signal = .sigUsr1) (hpoint : c.point = .setPaused) :
    PauseInvariant { s with calls := rest, paused := true } (some (n.getD 0)) := by
  have hrest (e : SignalCall) (he : e ∈ rest) : e ∈ s.calls := by simp [hcalls, he]
  obtain ⟨hclear, hvalue⟩ := hs.armed c (by simp [hcalls]) hsignal
  have horder := hs.order
  rw [hcalls, List.pairwise_cons] at horder
  constructor
  · exact fun e he => hs.early e (hrest e he)
  · exact horder.2
  · intro hblocked
    have hnone := hs.blocked hblocked
    rw [hcalls] at hnone
    cases hnone
  · exact fun e he => hs.armed e (hrest e he)
  · exact fun e he husr2 => absurd husr2 ((horder.1 e he).1 hsignal)
  · rintro k ⟨rfl⟩
    cases n with
    | none => exact Nat.zero_le 1
    | some k => exact hs.count k rfl
  · rintro k ⟨rfl⟩ hstops hrun
    refine ⟨rfl, hvalue hpoint, hclear, fun hstarts => ?_⟩
    cases n with
    | none => rfl
    | some k =>
      have hnostop : ∀ e ∈ s.calls, ¬ e.stops := by
        rw [hcalls]
        exact List.forall_mem_cons.mpr ⟨by simp [SignalCall.stops, hsignal], hstops⟩
      exact (hs.held k rfl hnostop hrun).2.2.2 hstarts

/-- `HandleSigusr2` returns. -/
theorem PauseInvariant.resumePause (hs : s.PauseInvariant n) (hcalls : s.calls = c :: rest)
    (hsignal : c.signal = .sigUsr2) :
    PauseInvariant { s with calls := rest, pauseValue := 1 } n := by
  have hrest (e : SignalCall) (he : e ∈ rest) : e ∈ s.calls := by simp [hcalls, he]
  have hnone : n = none := hs.resuming c (by simp [hcalls]) hsignal
  have horder := hs.order
  rw [hcalls, List.pairwise_cons] at horder
  constructor
  · exact fun e he => hs.early e (hrest e he)
  · exact horder.2
  · intro hblocked
    have hnil := hs.blocked hblocked
    rw [hcalls] at hnil
    cases hnil
  · intro e he husr1
    refine ⟨(hs.armed e (hrest e he) husr1).1, fun hset => ?_⟩
    exact absurd hset ((horder.1 e he).2 hsignal)
  · exact fun _ _ _ => hnone
  · simp [hnone]
  · simp [hnone]

/-- A step of the innermost handler that leaves the park open. -/
theorem PauseInvariant.stepCall (hs : s.PauseInvariant n) (hcalls : s.calls = c :: rest)
    (hopen : t.isOpen = true) (h : s.stepCall c rest = some t) :
    t.PauseInvariant (if c.point = .setPaused then some (n.getD 0) else n) := by
  have hearly := hs.early c (by simp [hcalls])
  cases hpoint : c.point with
  | critical p =>
    rw [if_neg (by simp)]
    simp only [Manager.stepCall, hpoint, Option.map_eq_some_iff] at h
    obtain ⟨⟨q, isOpen, lock⟩, hstep, rfl⟩ := h
    have hleaving := hearly.ne_leaving hpoint
    obtain ⟨q', rfl, hq'⟩ := critical_next hstep hopen hleaving
    exact hs.move (d := ⟨c.signal, .critical q'⟩) hcalls rfl (hearly.critical hpoint hq') rfl rfl
      rfl (.inl rfl) (by simp)
  | closePause =>
    rw [if_neg (by simp)]
    simp only [Manager.stepCall, hpoint, Option.some.injEq] at h
    subst h
    exact hs.move (d := ⟨c.signal, .setPaused⟩) hcalls rfl (hearly.setPaused hpoint) rfl rfl rfl
      (.inr rfl) fun _ => rfl
  | setPaused =>
    rw [if_pos rfl]
    simp only [Manager.stepCall, hpoint, Option.some.injEq] at h
    subst h
    exact hs.setPaused hcalls (hearly.sigUsr1 hpoint) hpoint
  | resumePause =>
    rw [if_neg (by simp)]
    simp only [Manager.stepCall, hpoint, Option.some.injEq] at h
    subst h
    exact hs.resumePause hcalls (hearly.sigUsr2 hpoint)
  | killCashier | killRestaurant | signalLoops | openPause =>
    cases hsignal : c.signal <;> simp [SignalCall.Early, hsignal, hpoint] at hearly

/-! ## Deliveries -/

theorem early_interrupted (h : c.Early) : c.interrupted.Early := by
  unfold SignalCall.interrupted
  cases hpoint : c.point with
  | critical p =>
    cases hsignal : c.signal <;> simp [SignalCall.Early, hsignal, hpoint] at h ⊢
    · cases p <;> simp_all [LockPoint.interrupted]
    · cases p <;> simp_all [LockPoint.interrupted]
  | _ => exact h

@[simp] theorem interrupted_signal (c : SignalCall) : c.interrupted.signal = c.signal := by
  unfold SignalCall.interrupted
  split <;> rfl

@[simp] theorem interrupted_eq_setPaused (c : SignalCall) :
    c.interrupted.point = .setPaused ↔ c.point = .setPaused := by
  unfold SignalCall.interrupted
  split
  · next p hp => simp [hp]
  · rfl

@[simp] theorem interrupted_stops (c : SignalCall) : c.interrupted.stops ↔ c.stops := by
  simp [SignalCall.stops]

/-- The calls below a new one are those that were there, the first of them interrupted. -/
theorem mem_interrupted {calls : List SignalCall} {d : SignalCall}
    (hd : d ∈ calls.modifyHead SignalCall.interrupted) :
    ∃ c ∈ calls, d = c ∨ d = c.interrupted := by
  cases calls with
  | nil => cases hd
  | cons c rest =>
    obtain rfl | hd := List.mem_cons.mp hd
    · exact ⟨c, List.mem_cons_self .., .inr rfl⟩
    · exact ⟨d, List.mem_cons_of_mem _ hd, .inl rfl⟩

theorem early_entry (signal : ManagerSignal) : SignalCall.Early ⟨signal, signal.entry⟩ := by
  cases signal <;> simp [SignalCall.Early, ManagerSignal.entry]

theorem early_below {calls : List SignalCall} (h : ∀ c ∈ calls, c.Early) :
    ∀ d ∈ calls.modifyHead SignalCall.interrupted, d.Early := by
  intro d hd
  obtain ⟨c, hc, rfl | rfl⟩ := mem_interrupted hd
  · exact h d hc
  · exact early_interrupted (h c hc)

/-- The signals and the closed semaphores are those of the calls that were there. -/
theorem below_interrupted {calls : List SignalCall} {d : SignalCall}
    (hd : d ∈ calls.modifyHead SignalCall.interrupted) :
    ∃ c ∈ calls, d.signal = c.signal ∧ (d.point = .setPaused ↔ c.point = .setPaused) := by
  obtain ⟨c, hc, rfl | rfl⟩ := mem_interrupted hd
  · exact ⟨d, hc, rfl, .rfl⟩
  · exact ⟨c, hc, by simp, by simp⟩

/-- The order of the calls of one thread after a delivery. -/
theorem order_deliver {calls : List SignalCall} (h : calls.Pairwise SignalCall.Above)
    {signal : ManagerSignal} (hnests : signal.Nests calls) :
    (⟨signal, signal.entry⟩ :: calls.modifyHead SignalCall.interrupted).Pairwise
      SignalCall.Above := by
  rw [List.pairwise_cons]
  constructor
  · intro d hd
    obtain ⟨c, hc, hsignal, hset⟩ := below_interrupted hd
    constructor
    · exact fun husr1 husr2 =>
        hnests.1 husr1 (List.mem_map.mpr ⟨c, hc, hsignal.symm.trans husr2⟩)
    · exact fun husr2 hdset => hnests.2 husr2 (List.mem_map.mpr ⟨c, hc, hset.mp hdset⟩)
  · cases calls with
    | nil => exact .nil
    | cons c rest =>
      rw [List.modifyHead_cons, List.pairwise_cons]
      obtain ⟨habove, hrest⟩ := List.pairwise_cons.mp h
      refine ⟨fun d hd => ?_, hrest⟩
      simpa [SignalCall.Above] using habove d hd

/-- `EINTR` leaves `Run` where it is, unless it is blocked in the pause. -/
theorem interrupted_inRun {p : LoopPoint} (hp : p ≠ .pauseBlocked)
    (h : p.interrupted.inRun = true) : p.interrupted = p := by
  cases p <;> first | rfl | exact absurd rfl hp | cases h

theorem interrupted_ne_clearPaused {p : LoopPoint} (hp : p ≠ .pauseBlocked)
    (hclear : p ≠ .clearPaused) : p.interrupted ≠ .clearPaused := by
  cases p <;> simp_all [LoopPoint.interrupted]

theorem PauseInvariant.deliver (hs : s.PauseInvariant n) {signal : ManagerSignal}
    (hnests : signal.Nests s.calls) (husr1 : signal = .sigUsr1 → s.point.Heeds) :
    (s.deliver signal).PauseInvariant (if signal = .sigUsr2 then none else n) := by
  have hcalls : (s.deliver signal).calls =
      ⟨signal, signal.entry⟩ :: s.calls.modifyHead SignalCall.interrupted := rfl
  have hentry : signal.entry ≠ .setPaused := by cases signal <;> simp [ManagerSignal.entry]
  have hmoved (h : s.calls ≠ []) : (s.deliver signal).point = s.point := by
    simp [Manager.deliver, h]
  have hstays (h : s.calls = []) : (s.deliver signal).point = s.point.interrupted := by
    simp [Manager.deliver, h]
  constructor
  · intro d hd
    obtain rfl | hd := List.mem_cons.mp (hcalls ▸ hd)
    · exact early_entry signal
    · exact early_below hs.early d hd
  · exact order_deliver hs.order hnests
  · intro hblocked
    by_cases hnil : s.calls = []
    · rw [hstays hnil] at hblocked
      cases hpoint : s.point <;> rw [hpoint] at hblocked <;> cases hblocked
    · exact absurd (hs.blocked (hmoved hnil ▸ hblocked)) hnil
  · intro d hd hdusr1
    obtain rfl | hd := List.mem_cons.mp (hcalls ▸ hd)
    · refine ⟨?_, fun h => absurd h hentry⟩
      obtain ⟨hblocked, hclear⟩ := husr1 hdusr1
      by_cases hnil : s.calls = []
      · rw [hstays hnil]
        exact interrupted_ne_clearPaused hblocked hclear
      · rwa [hmoved hnil]
    · obtain ⟨c, hc, hsignal, hset⟩ := below_interrupted hd
      obtain ⟨hclear, hvalue⟩ := hs.armed c hc (hsignal ▸ hdusr1)
      rw [hmoved (List.ne_nil_of_mem hc)]
      exact ⟨hclear, fun h => hvalue (hset.mp h)⟩
  · intro d hd hdusr2
    obtain rfl | hd := List.mem_cons.mp (hcalls ▸ hd)
    · exact if_pos hdusr2
    · obtain ⟨c, hc, hsignal, -⟩ := below_interrupted hd
      rw [hs.resuming c hc (hsignal ▸ hdusr2), ite_self]
  · intro k hk
    split at hk
    · cases hk
    · exact hs.count k hk
  · intro k hk hstops hrun
    split at hk
    · cases hk
    next husr2 =>
    have husr1 := husr1 (by
      have hstop := hstops _ (hcalls ▸ List.mem_cons_self ..)
      cases signal <;> simp_all [SignalCall.stops])
    have hpoint : (s.deliver signal).point = s.point := by
      by_cases hnil : s.calls = []
      · rw [hstays hnil] at hrun ⊢
        exact interrupted_inRun husr1.1 hrun
      · exact hmoved hnil
    have hnostop : ∀ c ∈ s.calls, ¬ c.stops := by
      rw [hcalls, List.forall_mem_cons] at hstops
      cases hlist : s.calls with
      | nil => simp
      | cons e rest =>
        rw [hlist, List.modifyHead_cons, List.forall_mem_cons, interrupted_stops] at hstops
        exact List.forall_mem_cons.mpr hstops.2
    rw [hpoint]
    exact hs.held k hk hnostop (hpoint ▸ hrun)

/-! ## Steps -/

theorem lockStep_isOpen {isOpen isOpen' : Bool} {lock lock' : ℕ} {p : LockPoint}
    {q : Option LockPoint} (h : p.step isOpen lock = some (q, isOpen', lock'))
    (hopen : isOpen' = true) : isOpen = true := by
  cases p with
  | acquire =>
    simp only [LockPoint.step] at h
    split at h <;> obtain ⟨-, rfl, -⟩ := h <;> exact hopen
  | blocked =>
    simp only [LockPoint.step, Option.ite_none_right_eq_some, Option.some.injEq,
      Prod.mk.injEq] at h
    obtain ⟨-, -, rfl, -⟩ := h
    exact hopen
  | executing =>
    obtain ⟨-, rfl, -⟩ := h
    cases hopen
  | leaving =>
    obtain ⟨-, rfl, -⟩ := h
    exact hopen

theorem stepLoop_isOpen (h : s.stepLoop = some t) (hopen : t.isOpen = true) :
    s.isOpen = true := by
  cases hpoint : s.point with
  | closing p =>
    simp only [Manager.stepLoop, hpoint, Option.map_eq_some_iff] at h
    obtain ⟨⟨q, isOpen, lock⟩, hstep, rfl⟩ := h
    exact lockStep_isOpen hstep hopen
  | pauseBlocked | waiting =>
    simp only [Manager.stepLoop, hpoint, Option.ite_none_right_eq_some, Option.some.injEq] at h
    obtain ⟨-, rfl⟩ := h
    exact hopen
  | create | removed => simp [Manager.stepLoop, hpoint] at h
  | pauseWait =>
    simp only [Manager.stepLoop, hpoint, Option.some.injEq] at h
    subst h
    split at hopen <;> exact hopen
  | _ =>
    simp only [Manager.stepLoop, hpoint, Option.some.injEq] at h
    subst h
    exact hopen

theorem stepCall_isOpen (h : s.stepCall c rest = some t) (hopen : t.isOpen = true) :
    s.isOpen = true := by
  cases hpoint : c.point with
  | critical p =>
    simp only [Manager.stepCall, hpoint, Option.map_eq_some_iff] at h
    obtain ⟨⟨q, isOpen, lock⟩, hstep, rfl⟩ := h
    exact lockStep_isOpen hstep hopen
  | _ =>
    simp only [Manager.stepCall, hpoint, Option.some.injEq] at h
    subst h
    exact hopen

theorem step_isOpen {a : ManagerAction} (h : s.step a = some t) (hopen : t.isOpen = true) :
    s.isOpen = true := by
  cases a with
  | main =>
    cases hcalls : s.calls with
    | nil =>
      simp only [Manager.step, hcalls] at h
      exact stepLoop_isOpen h hopen
    | cons c rest =>
      simp only [Manager.step, hcalls] at h
      exact stepCall_isOpen h hopen
  | fork pid | forkFails | logThrows | exits pid =>
    simp only [Manager.step, Option.ite_none_right_eq_some, Option.some.injEq] at h
    obtain ⟨-, rfl⟩ := h
    exact hopen
  | deliver signal =>
    simp only [Manager.step, Option.ite_none_left_eq_some, Option.some.injEq] at h
    obtain ⟨-, rfl⟩ := h
    exact hopen
  | others lock =>
    obtain rfl := Option.some.inj h
    exact hopen

/-- A step of the manager's thread or of another process that leaves the park open. -/
theorem PauseInvariant.step {a : ManagerAction} (hs : s.PauseInvariant n)
    (ha : ∀ signal, a = .deliver signal →
      signal.Nests s.calls ∧ (signal = .sigUsr1 → s.point.Heeds))
    (h : s.step a = some t) (hopen : t.isOpen = true) :
    t.PauseInvariant (countStarted n s a) := by
  cases a with
  | main =>
    cases hcalls : s.calls with
    | nil =>
      simp only [Manager.step, hcalls] at h
      have hcount : countStarted n s .main = n := by simp [countStarted, hcalls]
      rw [hcount]
      exact hs.stepLoop hcalls h
    | cons c rest =>
      simp only [Manager.step, hcalls] at h
      have hcount : countStarted n s .main =
          if c.point = .setPaused then some (n.getD 0) else n := by
        simp [countStarted, hcalls]
      rw [hcount]
      exact hs.stepCall hcalls hopen h
  | fork pid =>
    simp only [Manager.step, Option.ite_none_right_eq_some, Option.some.injEq] at h
    obtain ⟨⟨hcalls, hpoint, -⟩, rfl⟩ := h
    exact hs.fork hcalls hpoint pid
  | forkFails =>
    simp only [Manager.step, Option.ite_none_right_eq_some, Option.some.injEq] at h
    obtain ⟨⟨hcalls, -⟩, rfl⟩ := h
    exact pauseInvariant_outside hcalls hs.count fun _ _ hrun => (by cases hrun)
  | logThrows =>
    simp only [Manager.step, Option.ite_none_right_eq_some, Option.some.injEq] at h
    obtain ⟨⟨hcalls, -⟩, rfl⟩ := h
    exact pauseInvariant_outside hcalls hs.count fun _ _ hrun => (by cases hrun)
  | deliver signal =>
    simp only [Manager.step, Option.ite_none_left_eq_some, Option.some.injEq] at h
    obtain ⟨-, rfl⟩ := h
    obtain ⟨hnests, husr1⟩ := ha signal rfl
    exact hs.deliver hnests husr1
  | exits pid =>
    simp only [Manager.step, Option.ite_none_right_eq_some, Option.some.injEq] at h
    obtain ⟨-, rfl⟩ := h
    obtain ⟨early, order, blocked, armed, resuming, count, held⟩ := hs
    exact ⟨early, order, blocked, armed, resuming, count, held⟩
  | others lock =>
    obtain rfl := Option.some.inj h
    obtain ⟨early, order, blocked, armed, resuming, count, held⟩ := hs
    exact ⟨early, order, blocked, armed, resuming, count, held⟩

/-! ## What another thread sees -/

theorem stepCall_calls (h : s.stepCall c rest = some t) :
    t.point = s.point ∧ (t.calls = rest ∨ ∃ point, t.calls = ⟨c.signal, point⟩ :: rest) := by
  cases hpoint : c.point with
  | critical p =>
    simp only [Manager.stepCall, hpoint, Option.map_eq_some_iff] at h
    obtain ⟨⟨q, isOpen, lock⟩, -, rfl⟩ := h
    exact ⟨rfl, .inr ⟨_, rfl⟩⟩
  | setPaused | resumePause | openPause =>
    simp only [Manager.stepCall, hpoint, Option.some.injEq] at h
    subst h
    exact ⟨rfl, .inl rfl⟩
  | _ =>
    simp only [Manager.stepCall, hpoint, Option.some.injEq] at h
    subst h
    exact ⟨rfl, .inr ⟨_, rfl⟩⟩

/-- A handler is active that was active before, or it has been begun. -/
theorem signal_of_step {a : ManagerAction} (h : s.step a = some t) (hd : d ∈ t.calls) :
    (∃ c ∈ s.calls, d.signal = c.signal) ∨ a = .deliver d.signal := by
  cases a with
  | main =>
    cases hcalls : s.calls with
    | nil =>
      simp only [Manager.step, hcalls] at h
      have hnil : t.calls = [] := by
        cases hpoint : s.point with
        | closing p =>
          simp only [Manager.stepLoop, hpoint, Option.map_eq_some_iff] at h
          obtain ⟨⟨q, isOpen, lock⟩, -, rfl⟩ := h
          exact hcalls
        | _ => grind [Manager.stepLoop]
      rw [hnil] at hd
      cases hd
    | cons c rest =>
      simp only [Manager.step, hcalls] at h
      left
      obtain ⟨-, hrest | ⟨point, hmoved⟩⟩ := stepCall_calls h
      · exact ⟨d, List.mem_cons_of_mem _ (hrest ▸ hd), rfl⟩
      · obtain rfl | hd := List.mem_cons.mp (hmoved ▸ hd)
        · exact ⟨c, List.mem_cons_self .., rfl⟩
        · exact ⟨d, List.mem_cons_of_mem _ hd, rfl⟩
  | fork pid | forkFails | logThrows | exits pid =>
    simp only [Manager.step, Option.ite_none_right_eq_some, Option.some.injEq] at h
    obtain ⟨-, rfl⟩ := h
    exact .inl ⟨d, hd, rfl⟩
  | deliver signal =>
    simp only [Manager.step, Option.ite_none_left_eq_some, Option.some.injEq] at h
    obtain ⟨-, rfl⟩ := h
    obtain rfl | hd := List.mem_cons.mp hd
    · exact .inr rfl
    · obtain ⟨c, hc, hsignal, -⟩ := below_interrupted hd
      exact .inl ⟨c, hc, hsignal⟩
  | others lock =>
    obtain rfl := Option.some.inj h
    exact .inl ⟨d, hd, rfl⟩

/-- While `Run` goes on, only `HandleSigusr2` opens the semaphore. -/
theorem PauseInvariant.pauseValue_step {a : ManagerAction} (hs : s.PauseInvariant n)
    (h : s.step a = some t) (hrun : t.point.inRun = true) :
    s.point.inRun = true ∧
      (t.pauseValue ≤ s.pauseValue ∨ ∃ c ∈ s.calls, c.signal = .sigUsr2) := by
  cases a with
  | main =>
    cases hcalls : s.calls with
    | nil =>
      simp only [Manager.step, hcalls] at h
      refine (?_ : s.point.inRun = true ∧ t.pauseValue ≤ s.pauseValue).imp_right .inl
      cases hpoint : s.point with
      | closing p =>
        simp only [Manager.stepLoop, hpoint, Option.map_eq_some_iff] at h
        obtain ⟨⟨q, isOpen, lock⟩, -, rfl⟩ := h
        cases q <;> cases hrun
      | _ => grind [Manager.stepLoop, LoopPoint.inRun]
    | cons c rest =>
      simp only [Manager.step, hcalls] at h
      refine ⟨(stepCall_calls h).1 ▸ hrun, ?_⟩
      have hearly := hs.early c (by simp [hcalls])
      cases hpoint : c.point with
      | critical p =>
        simp only [Manager.stepCall, hpoint, Option.map_eq_some_iff] at h
        obtain ⟨⟨q, isOpen, lock⟩, -, rfl⟩ := h
        exact .inl le_rfl
      | closePause =>
        simp only [Manager.stepCall, hpoint, Option.some.injEq] at h
        subst h
        exact .inl (Nat.zero_le _)
      | setPaused =>
        simp only [Manager.stepCall, hpoint, Option.some.injEq] at h
        subst h
        exact .inl le_rfl
      | resumePause => exact .inr ⟨c, List.mem_cons_self .., hearly.sigUsr2 hpoint⟩
      | killCashier | killRestaurant | signalLoops | openPause =>
        cases hsignal : c.signal <;> simp [SignalCall.Early, hsignal, hpoint] at hearly
  | fork pid | forkFails | logThrows | exits pid =>
    simp only [Manager.step, Option.ite_none_right_eq_some, Option.some.injEq] at h
    grind [LoopPoint.inRun]
  | deliver signal =>
    simp only [Manager.step, Option.ite_none_left_eq_some, Option.some.injEq] at h
    obtain ⟨-, rfl⟩ := h
    refine ⟨?_, .inl le_rfl⟩
    simp only [Manager.deliver] at hrun
    split at hrun
    · cases hpoint : s.point <;> rw [hpoint] at hrun <;> first | rfl | cases hrun
    · exact hrun
  | others lock =>
    obtain rfl := Option.some.inj h
    exact ⟨hrun, .inl le_rfl⟩

end Manager

end AmusementPark.Main
