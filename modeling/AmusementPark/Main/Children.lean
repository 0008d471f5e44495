import AmusementPark.Main.ManagerRun

/-! # The children of the manager

`pCloseImpl` waits for its children in a loop that a failed `wait` ends, whether
it failed because there is no child left or because a signal arrived. After the
second the log is closed and the IPC objects go while children still run.
-/
namespace AmusementPark.Main
open Library

/-- Past the loop around `wait`. -/
def LoopPoint.pastWait : LoopPoint → Bool
  | .sendEnd | .join | .removed => true
  | _ => false

namespace Manager

/-- The end-of-log message has been sent, or `Close` has returned, with no child alive. -/
def OutlivesChildren (s : Manager) : Prop :=
  s.point = .join ∨ s.point = .removed → s.children = ∅

instance : DecidablePred OutlivesChildren := fun _ => inferInstanceAs (Decidable (_ → _))

/-- No signal is delivered to a manager that is blocked in `wait` while a child is alive. -/
def WaitUninterrupted (s : Manager) : ManagerAction → Prop
  | .deliver _ => s.point = .waiting → s.children = ∅
  | _ => True

instance decidableWaitUninterrupted (s : Manager) : ∀ a, Decidable (s.WaitUninterrupted a)
  | .deliver _ => inferInstanceAs (Decidable (_ → _))
  | .main | .fork _ | .forkFails | .logThrows | .exits _ | .others _ => isTrue trivial

def ChildrenGone (s : Manager) : Prop := s.point.pastWait = true → s.children = ∅

theorem childrenGone_stepLoop {s t : Manager} (hs : s.ChildrenGone) (h : s.stepLoop = some t) :
    t.ChildrenGone := by
  cases hpoint : s.point with
  | closing p =>
    simp only [stepLoop, hpoint, Option.map_eq_some_iff] at h
    obtain ⟨⟨q, isOpen, lock⟩, -, rfl⟩ := h
    intro hpast
    cases q <;> cases hpast
  | pauseBlocked =>
    simp only [stepLoop, hpoint, Option.ite_none_right_eq_some, Option.some.injEq] at h
    obtain ⟨-, rfl⟩ := h
    intro hpast
    cases hpast
  | callWait =>
    simp only [stepLoop, hpoint, Option.some.injEq] at h
    subst h
    intro hpast
    by_contra hchild
    simp [LoopPoint.pastWait, hchild] at hpast
  | waiting =>
    simp only [stepLoop, hpoint, Option.ite_none_right_eq_some, Option.some.injEq] at h
    obtain ⟨hchildren, rfl⟩ := h
    exact fun _ => hchildren
  | sendEnd | join =>
    simp only [stepLoop, hpoint, Option.some.injEq] at h
    subst h
    exact fun _ => hs (by rw [hpoint]; rfl)
  | create | removed => simp [stepLoop, hpoint] at h
  | pauseWait =>
    simp only [stepLoop, hpoint, Option.some.injEq] at h
    subst h
    intro hpast
    split at hpast <;> cases hpast
  | testOpen | testPaused =>
    simp only [stepLoop, hpoint, Option.some.injEq] at h
    subst h
    intro hpast
    dsimp only at hpast
    split at hpast <;> cases hpast
  | sleep | clearPaused | signalLoops | openPause =>
    simp only [stepLoop, hpoint, Option.some.injEq] at h
    subst h
    intro hpast
    cases hpast

/-- A handler touches neither the interrupted code nor the children. -/
theorem stepCall_frame {s t : Manager} {c : SignalCall} {rest : List SignalCall}
    (h : s.stepCall c rest = some t) : t.point = s.point ∧ t.children = s.children := by
  cases hpoint : c.point with
  | critical p =>
    simp only [stepCall, hpoint, Option.map_eq_some_iff] at h
    obtain ⟨⟨q, isOpen, lock⟩, -, rfl⟩ := h
    exact ⟨rfl, rfl⟩
  | _ =>
    simp only [stepCall, hpoint, Option.some.injEq] at h
    subst h
    exact ⟨rfl, rfl⟩

theorem childrenGone_deliver {s : Manager} {signal : ManagerSignal} (hs : s.ChildrenGone)
    (hwait : s.point = .waiting → s.children = ∅) : (s.deliver signal).ChildrenGone := by
  intro hpast
  simp only [deliver] at hpast ⊢
  split at hpast
  · cases hpoint : s.point with
    | waiting => exact hwait hpoint
    | sendEnd | join | removed => exact hs (by rw [hpoint]; rfl)
    | _ =>
      rw [hpoint] at hpast
      cases hpast
  · exact hs hpast

theorem childrenGone_step {s t : Manager} {a : ManagerAction} (hs : s.ChildrenGone)
    (ha : s.WaitUninterrupted a) (h : s.step a = some t) : t.ChildrenGone := by
  cases a with
  | main =>
    cases hcalls : s.calls with
    | nil =>
      simp only [step, hcalls] at h
      exact childrenGone_stepLoop hs h
    | cons c rest =>
      simp only [step, hcalls] at h
      obtain ⟨hpoint, hchildren⟩ := stepCall_frame h
      intro hpast
      rw [hchildren]
      exact hs (hpoint ▸ hpast)
  | fork pid =>
    simp only [step, Option.ite_none_right_eq_some, Option.some.injEq] at h
    obtain ⟨-, rfl⟩ := h
    intro hpast
    cases hpast
  | forkFails =>
    simp only [step, Option.ite_none_right_eq_some, Option.some.injEq] at h
    obtain ⟨-, rfl⟩ := h
    intro hpast
    cases hpast
  | logThrows =>
    simp only [step, Option.ite_none_right_eq_some, Option.some.injEq] at h
    obtain ⟨⟨-, hpoint⟩, rfl⟩ := h
    exact fun _ => hs (by rw [hpoint]; rfl)
  | deliver signal =>
    simp only [step, Option.ite_none_left_eq_some, Option.some.injEq] at h
    obtain ⟨-, rfl⟩ := h
    exact childrenGone_deliver hs ha
  | exits pid =>
    simp only [step, Option.ite_none_right_eq_some, Option.some.injEq] at h
    obtain ⟨hmem, rfl⟩ := h
    intro hpast
    rw [hs hpast] at hmem
    exact absurd hmem (Finset.notMem_empty pid)
  | others lock =>
    obtain rfl := Option.some.inj h
    exact hs

/-- In every run of `pCloseImpl` in which no signal interrupts `wait` while a child is alive, the
end-of-log message is sent and `Close` returns only after all children have terminated. -/
theorem outlivesChildren_of_waitUninterrupted (s : Manager) (hs : s.point = .closing .acquire)
    (as : List ManagerAction) (has : machine.Meets WaitUninterrupted s as) :
    machine.Always OutlivesChildren s as := by
  apply Machine.always_of_meets (I := ChildrenGone) ?_ ?_ ?_ has
  · intro s hgone hpoint
    apply hgone
    obtain h | h := hpoint <;> rw [h] <;> rfl
  · intro s a t hgone ha h
    exact childrenGone_step hgone ha h
  · intro hpast
    rw [hs] at hpast
    cases hpast

/-- `pCloseImpl` of a manager with the children 101 and 102. -/
def closingWithTwo : Manager := { started 1 {101, 102} with point := .closing .acquire }

/-- From the critical section into `wait`. -/
def intoWait : List ManagerAction := List.replicate 6 .main

/-- Two children terminate in turn, and a signal that arrives before `wait` does no harm. -/
theorem closingWithTwo_outlives : machine.Always OutlivesChildren closingWithTwo
    (.deliver .sigUsr2 :: .main :: intoWait ++ [.exits 102, .exits 101, .main, .main, .main]) :=
  outlivesChildren_of_waitUninterrupted closingWithTwo rfl _ (by decide)

/-- A `SIGUSR2` during `wait`: the manager removes the IPC objects under two running children. -/
theorem closingWithTwo_interrupted : ¬ machine.Always OutlivesChildren closingWithTwo
    (intoWait ++ [.deliver .sigUsr2, .main, .main, .main]) := by
  decide

end Manager
end AmusementPark.Main
