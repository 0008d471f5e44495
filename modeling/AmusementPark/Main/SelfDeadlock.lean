import AmusementPark.Library.Machine
import AmusementPark.Main.MainProc

/-! # The shutdown handler and the lock of its own process

`HandleSigint` takes the lock of the shared data. A signal that arrives between
the `Wait` and the `Signal` of a critical section of the manager, in `pInitImpl`,
in `pCloseImpl` or in the handler of the other signal, stops the holder of the
lock until the new handler returns, which waits for the lock. The other
processes may do anything to the lock and to the data.
-/
namespace AmusementPark.Main
open Library Park

/-- The lock has been taken and not been released. -/
def SectionPoint.inside : SectionPoint → Bool
  | .acquire | .blocked => false
  | .executing locked | .leaving locked => locked

def SectionPoint.waits : SectionPoint → Bool
  | .acquire | .blocked => true
  | .executing _ | .leaving _ => false

def HandlerPoint.inside : HandlerPoint → Bool
  | .critical p => p.inside
  | _ => false

def HandlerPoint.waits : HandlerPoint → Bool
  | .critical p => p.waits
  | _ => false

def MainPoint.inside : MainPoint → Bool
  | .opening p | .closing p => p.inside
  | _ => false

@[simp] theorem MainPoint.inside_interrupted (p : MainPoint) :
    p.interrupted.inside = p.inside := by
  cases p with
  | opening p | closing p => cases p <;> rfl
  | _ => rfl

/-- An interrupted handler holds the lock if it did before. -/
@[simp] theorem any_inside_interrupted (frames : List HandlerFrame) :
    (frames.modifyHead HandlerFrame.interrupted).any (·.point.inside) =
      frames.any (·.point.inside) := by
  cases frames with
  | nil => rfl
  | cons f rest =>
    have hkeep : f.interrupted.point.inside = f.point.inside := by
      unfold HandlerFrame.interrupted
      cases hpoint : f.point with
      | critical p => cases p <;> simp [HandlerPoint.inside, SectionPoint.interrupted,
          SectionPoint.inside]
      | _ => simp [hpoint]
    simp [hkeep]

/-- The manager holds the lock somewhere. -/
def MainProc.inside (p : MainProc) : Bool := p.base.inside || p.frames.any (·.point.inside)

/-- Code of the manager that a handler has interrupted holds the lock. -/
def MainProc.interruptedInside (p : MainProc) : Bool :=
  !p.frames.isEmpty && (p.base.inside || p.frames.tail.any (·.point.inside))

namespace MainSystem
variable {n : ℕ}

/-- The innermost `HandleSigint` waits for the lock, and interrupted code of the manager holds
it. -/
def SelfDeadlock (s : MainSystem n) : Prop :=
  s.proc.frames.head?.map (·.point.waits) = some true ∧ s.lock = 0 ∧
    s.proc.interruptedInside = true

instance : DecidablePred (SelfDeadlock (n := n)) := fun _ =>
  inferInstanceAs (Decidable (_ ∧ _ ∧ _))

/-- The manager beside other processes, which change the shared data and the lock as they like. -/
inductive EnvAction (n : ℕ) where
  | manager (a : MainAction)
  | others (data : SharedData n) (lock : ℕ)

def envStep (s : MainSystem n) : EnvAction n → Option (MainSystem n)
  | .manager a => s.step a
  | .others data lock => some ⟨s.proc, data, lock⟩

def envMachine (n : ℕ) : Machine (MainSystem n) (EnvAction n) := ⟨envStep⟩

/-- Signals arrive only while the manager does not hold the lock. -/
def DeliversOutside (s : MainSystem n) : EnvAction n → Prop
  | .manager (.deliver _) => s.proc.inside = false
  | _ => True

instance decidableDeliversOutside (s : MainSystem n) : ∀ a, Decidable (s.DeliversOutside a)
  | .manager (.deliver _) => inferInstanceAs (Decidable (s.proc.inside = false))
  | .manager .main | .manager .mainThrows | .others _ _ => isTrue trivial

/-- No step but such a delivery puts interrupted code inside. -/
theorem interruptedInside_step {s t : MainSystem n} {a : EnvAction n}
    (hs : s.proc.interruptedInside = false) (ha : s.DeliversOutside a)
    (h : s.envStep a = some t) : t.proc.interruptedInside = false := by
  cases a with
  | others data lock =>
    obtain rfl := Option.some.inj h
    exact hs
  | manager a =>
    obtain ⟨hmove, -⟩ := step_move h
    cases hmove with
    | base _ hp => simp [MainProc.interruptedInside, hp]
    | stays hbase hp => rwa [MainProc.interruptedInside, hbase, hp]
    | returns hbase f hframes =>
      -- the frame below was interrupted, so it was outside
      simp only [MainProc.interruptedInside, hframes, List.isEmpty_cons, Bool.not_false,
        Bool.true_and, List.tail_cons, Bool.or_eq_false_iff] at hs
      simp only [MainProc.interruptedInside, hbase, hs.1, Bool.false_or, Bool.and_eq_false_imp]
      intro _
      exact List.any_eq_false.mpr fun g hg =>
        List.any_eq_false.mp hs.2 g (List.mem_of_mem_tail hg)
    | handles hbase _ signal point point' rest hframes hp _ =>
      simp only [MainProc.interruptedInside, hframes, List.isEmpty_cons, Bool.not_false,
        Bool.true_and, List.tail_cons] at hs
      simpa [MainProc.interruptedInside, hp, hbase] using hs
    | delivers hbase signal ha' hp =>
      subst ha'
      have hinside : s.proc.inside = false := ha
      have hbaseInside : t.proc.base.inside = s.proc.base.inside := by
        obtain h | h := hbase <;> simp [h]
      simpa [MainProc.interruptedInside, hp, hbaseInside, MainProc.inside] using hinside

/-- In every run whose signals arrive outside the critical sections of the manager no handler
waits for its own process. A signal that arrives inside, while the lock is at 0, makes the new
handler wait at once. -/
theorem noSelfDeadlock {s : MainSystem n} (hs : s.proc = .installed) :
    (∀ as, (envMachine n).Meets DeliversOutside s as →
      (envMachine n).Always (fun s => ¬ s.SelfDeadlock) s as) ∧
    ∀ s t : MainSystem n, ∀ signal, s.proc.inside = true → s.lock = 0 →
      s.step (.deliver signal) = some t → t.SelfDeadlock := by
  constructor
  · intro as has
    refine Machine.always_of_meets (I := fun s => s.proc.interruptedInside = false) ?_ ?_ ?_ has
    · intro s hs hdead
      have hinside := hdead.2.2
      rw [hs] at hinside
      cases hinside
    · exact fun s a t hs ha h => interruptedInside_step hs ha h
    · rw [hs]
      rfl
  · intro s t signal hinside hlock h
    simp only [step, Option.ite_none_left_eq_some, Option.some.injEq] at h
    obtain ⟨-, -, rfl⟩ := h
    refine ⟨rfl, hlock, ?_⟩
    have hbase : (if s.proc.frames = [] then s.proc.base.interrupted else s.proc.base).inside =
        s.proc.base.inside := by
      split <;> simp
    simpa [MainProc.interruptedInside, MainProc.inside, hbase] using hinside

/-- `SIGINT` in `Run`, and `SIGTERM` past the critical section of its handler. -/
theorem quietSignals_noSelfDeadlock :
    (envMachine 16).Always (fun s => ¬ s.SelfDeadlock) ⟨.installed, .created false, 1⟩
      [.manager .main, .manager .main, .manager .main, .manager .main, .manager .main,
        .manager .main, .manager (.deliver .sigInt), .manager .main, .manager .main,
        .manager .main, .manager (.deliver .sigTerm), .manager .main] :=
  (noSelfDeadlock rfl).1 _ (by decide)

/-- `SIGINT` inside the critical section of `pInitImpl`, and `SIGTERM` inside the one of the
`HandleSigint` that `SIGINT` has started. -/
theorem signalInside_selfDeadlock :
    (∃ s, (envMachine 16).exec ⟨.installed, .created false, 1⟩
        [.manager .main, .manager .main, .manager (.deliver .sigInt), .manager .main] = some s ∧
      s.SelfDeadlock ∧ s.step .main = none) ∧
    ∃ s, (envMachine 16).exec ⟨.installed, .created false, 1⟩
        [.manager .main, .manager .main, .manager .main, .manager .main, .manager .main,
          .manager .main, .manager (.deliver .sigInt), .manager .main,
          .manager (.deliver .sigTerm), .manager .main] = some s ∧
      s.proc.base = .running ∧ s.SelfDeadlock ∧ s.step .main = none :=
  ⟨⟨_, rfl, ⟨rfl, rfl, rfl⟩, rfl⟩, ⟨_, rfl, rfl, ⟨rfl, rfl, rfl⟩, rfl⟩⟩

end MainSystem
end AmusementPark.Main
