import AmusementPark.Ipc.SemaphoreLock

/-! # Mutual exclusion of the lock and the exits that break it

The value of the semaphore and the processes inside add up to one, and the
adjustment of a live process is the number of its completed releases plus the
unit it holds. The exit of a process that has never released keeps this. The
exit of any other process adds its releases to the semaphore a second time.
-/
namespace AmusementPark.Ipc
open Library

@[simp] theorem inside_outside : ¬ Phase.Inside .outside := by simp [Phase.Inside, Phase.lock?]

@[simp] theorem inside_exited : ¬ Phase.Inside .exited := by simp [Phase.Inside, Phase.lock?]

@[simp] theorem inside_executing (lock : SemaphoreLock) :
    Phase.Inside (.executing lock) ↔ lock.released = false := by simp [Phase.Inside, Phase.lock?]

@[simp] theorem inside_leaving (lock : SemaphoreLock) :
    Phase.Inside (.leaving lock) ↔ lock.released = false := by simp [Phase.Inside, Phase.lock?]

namespace LockState
variable {P : Type*} [DecidableEq P]

/-- `Release` of a lock of one unit returns the unit unless it has been returned. -/
theorem release_semaphore (lock : SemaphoreLock) (hunit : lock.val = 1) (S : UndoSemaphore P)
    (p : P) (φ : Phase) (hφ : φ.Inside ↔ lock.released = false) :
    (lock.release S p).2 = ⟨S.value + share Phase.Inside φ, S.adjustment⟩ := by
  rw [SemaphoreLock.release, hunit, signal_one]
  cases hr : lock.released with
  | false => rw [share_of _ (hφ.mpr hr)]; rfl
  | true =>
    rw [share_of_not _ (fun h => by simp [hφ.mp h] at hr)]
    simp

variable [Fintype P]

/-- The bookkeeping behind mutual exclusion. -/
structure Balanced (x : LockState P × (P → ℕ)) : Prop where
  total : x.1.semaphore.value + x.1.inside = 1
  nonneg : 0 ≤ x.1.semaphore.value
  adjustment : ∀ p, x.1.phase p ≠ .exited →
    x.1.semaphore.adjustment p = x.2 p + share Phase.Inside (x.1.phase p)
  unit : ∀ p, ∀ lock ∈ (x.1.phase p).lock?, lock.val = 1

omit [DecidableEq P] in
theorem balanced_attached : Balanced (attached (P := P), fun _ => 0) where
  total := by simp [attached, inside, UndoSemaphore.setVal, population_const]
  nonneg := by simp [attached, UndoSemaphore.setVal]
  adjustment p _ := by simp [attached, UndoSemaphore.setVal, share]
  unit p lock h := by simp [attached, Phase.lock?] at h

omit [DecidableEq P] in
theorem Balanced.exclusive {x : LockState P × (P → ℕ)} (h : Balanced x) :
    MutualExclusion x.1 := by
  have := h.total
  have := h.nonneg
  exact ⟨h.total, by omega⟩

theorem inside_update (s : LockState P) (S : UndoSemaphore P) (p : P) (φ : Phase) :
    (⟨S, Function.update s.phase p φ⟩ : LockState P).inside + share Phase.Inside (s.phase p) =
      s.inside + share Phase.Inside φ :=
  population_update Phase.Inside s.phase p φ

/-- A process may change its phase as long as value, share and adjustment move together. -/
theorem Balanced.update {s : LockState P} {n m : P → ℕ} (h : Balanced (s, n)) (p : P) (φ : Phase)
    {S : UndoSemaphore P}
    (hvalue : S.value + share Phase.Inside φ =
      s.semaphore.value + share Phase.Inside (s.phase p))
    (hnonneg : 0 ≤ S.value)
    (hself : φ ≠ .exited → S.adjustment p = m p + share Phase.Inside φ)
    (hothers : ∀ q, q ≠ p → S.adjustment q = s.semaphore.adjustment q ∧ m q = n q)
    (hunit : ∀ lock ∈ φ.lock?, lock.val = 1) :
    Balanced (⟨S, Function.update s.phase p φ⟩, m) := by
  have hin := inside_update s S p φ
  have htotal := h.total
  refine ⟨?_, hnonneg, fun q hq => ?_, fun q lock hlock => ?_⟩
  · dsimp only at hin htotal ⊢
    omega
  · by_cases hqp : q = p
    · subst hqp
      simp only [Function.update_self] at hq ⊢
      exact hself hq
    · simp only [Function.update_of_ne hqp] at hq ⊢
      rw [(hothers q hqp).1, (hothers q hqp).2]
      exact h.adjustment q hq
  · by_cases hqp : q = p
    · subst hqp
      simp only [Function.update_self] at hlock
      exact hunit lock hlock
    · simp only [Function.update_of_ne hqp] at hlock
      exact h.unit q lock hlock

/-- Releasing the lock in phase `ψ` and going on in a phase outside it. -/
theorem Balanced.released {s : LockState P} {n : P → ℕ} (h : Balanced (s, n)) {p : P}
    {lock : SemaphoreLock} {ψ φ : Phase} (hp : s.phase p = ψ) (hψ : ψ ≠ .exited)
    (hlock : ψ.lock? = some lock) (hin : ψ.Inside ↔ lock.released = false) (hφ : ¬ φ.Inside)
    (hunit : ∀ l ∈ φ.lock?, l.val = lock.val) :
    Balanced (⟨(lock.release s.semaphore p).2, Function.update s.phase p φ⟩,
      if (s.phase p).Inside then Function.update n p (n p + 1) else n) := by
  have hone : lock.val = 1 := h.unit p lock (by rw [hp, hlock]; rfl)
  have hadj := h.adjustment p (by rw [hp]; exact hψ)
  have hnonneg := h.nonneg
  rw [release_semaphore lock hone s.semaphore p ψ hin]
  dsimp only at hadj hnonneg
  rw [hp] at hadj ⊢
  refine h.update p φ ?_ ?_ (fun _ => ?_) (fun q hq => ⟨rfl, ?_⟩) (fun l hl => ?_)
  · rw [hp, share_of_not _ hφ]
    simp
  · dsimp only
    omega
  · dsimp only
    rw [hadj, share_of_not _ hφ]
    split_ifs with h1
    · simp [share_of _ h1]
    · simp [share_of_not _ h1]
  · split_ifs
    · exact Function.update_of_ne hq _ _
    · rfl
  · rw [hunit l hl, hone]

/-- An exit is harmless when the process has not released the lock before. -/
def ExitsUnreleased (x : LockState P × (P → ℕ)) (a : LockAction P) : Prop :=
  ∀ p, a = .exit p → x.2 p = 0

theorem Balanced.step {x y : LockState P × (P → ℕ)} {a : LockAction P} (h : Balanced x)
    (ha : ExitsUnreleased x a) (hy : (machine P).step x a = some y) : Balanced y := by
  rcases x with ⟨s, n⟩
  rcases y with ⟨t, m⟩
  obtain ⟨ht, hm⟩ := Machine.observe_step.mp hy
  dsimp only at ht hm
  subst hm
  cases a with
  | construct p =>
    simp only [LockState.step, Option.ite_none_right_eq_some, Option.map_eq_some_iff] at ht
    obtain ⟨hp, S, hS, rfl⟩ := ht
    obtain ⟨hroom, rfl⟩ := wait_one_eq_some.mp hS
    have hadj := h.adjustment p (by simp [hp])
    have hout : share Phase.Inside .outside = 0 := share_of_not _ inside_outside
    have hin : share Phase.Inside (.executing ⟨1, false⟩) = 1 := share_of _ (by simp)
    dsimp only at hadj
    refine h.update p _ ?_ hroom (fun _ => ?_) (fun q hq => ⟨?_, rfl⟩) (fun l hl => ?_)
    · rw [hp, hout, hin]
      simp
    · simp only [Function.update_self, countRelease]
      rw [hadj, hp, hout, hin]
      simp
    · exact Function.update_of_ne hq _ _
    · simp only [Phase.lock?, Option.mem_some_iff] at hl
      exact hl ▸ rfl
  | functionReturns p =>
    cases hp : s.phase p with
    | executing lock =>
      simp only [LockState.step, hp, Option.some.injEq] at ht
      subst ht
      have hadj := h.adjustment p (by simp [hp])
      refine h.update p _ ?_ h.nonneg (fun _ => ?_) (fun q hq => ⟨rfl, rfl⟩)
        (fun l hl => h.unit p l (by rw [hp]; exact hl))
      · simp [hp, share]
      · simpa [hp, share, countRelease] using hadj
    | outside => simp [LockState.step, hp] at ht
    | leaving lock => simp [LockState.step, hp] at ht
    | exited => simp [LockState.step, hp] at ht
  | functionThrows p =>
    cases hp : s.phase p with
    | executing lock =>
      simp only [LockState.step, hp, Option.some.injEq] at ht
      subst ht
      exact h.released hp (by simp) rfl (by simp) (by simp [SemaphoreLock.release])
        (fun l hl => by simp only [Phase.lock?, Option.mem_some_iff] at hl; exact hl ▸ rfl)
    | outside => simp [LockState.step, hp] at ht
    | leaving lock => simp [LockState.step, hp] at ht
    | exited => simp [LockState.step, hp] at ht
  | destroy p =>
    cases hp : s.phase p with
    | leaving lock =>
      simp only [LockState.step, hp, Option.some.injEq] at ht
      subst ht
      exact h.released hp (by simp) rfl (by simp) inside_outside
        (fun l hl => by simp [Phase.lock?] at hl)
    | outside => simp [LockState.step, hp] at ht
    | executing lock => simp [LockState.step, hp] at ht
    | exited => simp [LockState.step, hp] at ht
  | exit p =>
    simp only [LockState.step, Option.ite_none_left_eq_some, Option.some.injEq] at ht
    obtain ⟨hp, rfl⟩ := ht
    have hadj := h.adjustment p hp
    have hnone : n p = 0 := ha p rfl
    have hnonneg := h.nonneg
    dsimp only at hadj hnonneg
    refine h.update p _ ?_ ?_ (fun hne => absurd rfl hne) (fun q hq => ⟨?_, rfl⟩)
      (fun l hl => by simp [Phase.lock?] at hl)
    · rw [share_of_not _ inside_exited]
      simp only [UndoSemaphore.exitProcess]
      omega
    · simp only [UndoSemaphore.exitProcess]
      omega
    · exact Function.update_of_ne hq _ _

/-- An exit after a release raises the sum above one. -/
theorem Balanced.leak {x y : LockState P × (P → ℕ)} {a : LockAction P} (h : Balanced x)
    (ha : ¬ ExitsUnreleased x a) (hy : (machine P).step x a = some y) :
    ¬ MutualExclusion y.1 := by
  rcases x with ⟨s, n⟩
  rcases y with ⟨t, m⟩
  obtain ⟨ht, -⟩ := Machine.observe_step.mp hy
  dsimp only at ht
  simp only [ExitsUnreleased, not_forall] at ha
  obtain ⟨p, rfl, hn⟩ := ha
  simp only [LockState.step, Option.ite_none_left_eq_some, Option.some.injEq] at ht
  obtain ⟨hp, rfl⟩ := ht
  have hadj := h.adjustment p hp
  have htotal := h.total
  have hin := inside_update s (s.semaphore.exitProcess p) p .exited
  rw [share_of_not _ inside_exited] at hin
  rintro ⟨hsum, -⟩
  simp only [UndoSemaphore.exitProcess] at hsum hadj htotal hin
  omega

/-- In every run of any number of processes the semaphore's value plus the number of processes
inside stays one exactly as long as no process exits that has released the lock before. -/
theorem mutualExclusion_iff_exits (as : List (LockAction P)) :
    (machine P).Always (fun x => MutualExclusion x.1) (attached, fun _ => 0) as ↔
      (machine P).Meets ExitsUnreleased (attached, fun _ => 0) as :=
  Machine.always_iff_meets (I := Balanced) (fun _ h => h.exclusive)
    (fun _ _ _ h ha hy => h.step ha hy) (fun _ _ _ h ha hy => h.leak ha hy) as balanced_attached

end LockState

/-- One process locks, returns and exits; then two processes are inside at once. -/
theorem exit_admits_two_holders :
    ∃ x : LockState (Fin 3) × (Fin 3 → ℕ),
      (LockState.machine (Fin 3)).exec (.attached, fun _ => 0)
        [.construct 0, .functionReturns 0, .destroy 0, .exit 0, .construct 1, .construct 2] =
          some x ∧
      x.1.semaphore.value + x.1.inside = 2 ∧ x.1.inside = 2 ∧ ¬ x.1.MutualExclusion := by
  refine ⟨_, rfl, by decide, by decide, fun h => absurd h.2 (by decide)⟩

end AmusementPark.Ipc
