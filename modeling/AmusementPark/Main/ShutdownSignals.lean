import AmusementPark.Main.MainProc
import AmusementPark.Park.SlotAllocation

/-! # The targets of the shutdown signals

`HandleSigint` signals the cashier and the restaurant by the process identifiers
it finds in the shared data. Each of these fields is set and cleared by its own
process, in critical sections that are single steps here. The field of a process
that has not registered yet, or has closed, is 0, and `kill(0, ...)` signals the
whole group of processes.
-/
namespace AmusementPark.Main
open Library Park

/-- A handler that is about to signal a process has been so before it was interrupted. -/
theorem HandlerFrame.kill_of_interrupted {frames : List HandlerFrame} {f : HandlerFrame}
    (hf : f ∈ frames.modifyHead HandlerFrame.interrupted) :
    ∃ g ∈ frames, ∀ target, (f.point = .killCashier target → g.point = .killCashier target) ∧
      (f.point = .killRestaurant target → g.point = .killRestaurant target) := by
  cases frames with
  | nil => cases hf
  | cons g rest =>
    obtain rfl | hf := List.mem_cons.mp hf
    · refine ⟨g, List.mem_cons_self .., fun target => ?_⟩
      unfold HandlerFrame.interrupted
      split <;> simp_all
    · exact ⟨f, List.mem_cons_of_mem _ hf, fun _ => ⟨id, id⟩⟩

/-- The cashier before its critical section, past it, refused by it, and past the one of
`pCloseImpl`. -/
inductive CashierPhase where
  | fresh
  | registered
  | failed (e : InitError)
  | closed
deriving DecidableEq

/-- The processes of the park. -/
structure ParkStaff (n : ℕ) extends Staff n where
  cashier : Pid
  cashier_ne_zero : cashier ≠ 0

structure ParkSystem (n : ℕ) where
  main : MainSystem n
  phase : Worker n → WorkerPhase n
  cashier : CashierPhase

/-- `lock` is what the other processes do to the lock. -/
inductive ParkAction (n : ℕ) where
  | manager (a : MainAction)
  | init (w : Worker n)
  | close (w : Worker n)
  | cashierInit
  | cashierClose
  | lock (value : ℕ)

namespace ParkSystem
variable {n : ℕ}

/-- The manager has installed its handlers, nobody else has started. -/
def start (lock : ℕ) : ParkSystem n :=
  ⟨⟨.installed, .created false, lock⟩, fun _ => .fresh, .fresh⟩

def slots (s : ParkSystem n) : SlotSystem n := ⟨s.main.data, s.phase⟩

def setData (s : ParkSystem n) (data : SharedData n) : MainSystem n := { s.main with data := data }

def workerStep (staff : ParkStaff n) (s : ParkSystem n) (a : SlotAction n) :
    Option (ParkSystem n) :=
  (SlotSystem.step staff.toStaff s.slots a).map fun slots =>
    { s with main := s.setData slots.data, phase := slots.phase }

def step (staff : ParkStaff n) (s : ParkSystem n) : ParkAction n → Option (ParkSystem n)
  | .manager a => (s.main.step a).map fun main => { s with main := main }
  | .init w => s.workerStep staff (.init w)
  | .close w => s.workerStep staff (.close w)
  | .cashierInit => if s.cashier = .fresh then
      match s.main.data.cashierInit staff.cashier with
      | .ok data => some { s with main := s.setData data, cashier := .registered }
      | .error e => some { s with cashier := .failed e }
    else none
  | .cashierClose => if s.cashier = .closed then none else some { s with
      main := s.setData (s.main.data.cashierClose staff.cashier)
      cashier := .closed }
  | .lock value => some { s with main := { s.main with lock := value } }

def machine (staff : ParkStaff n) : Machine (ParkSystem n) (ParkAction n) := ⟨step staff⟩

/-- The innermost point of `HandleSigint` that a step of the manager executes. -/
def handling (s : ParkSystem n) : ParkAction n → Option HandlerPoint
  | .manager .main => s.main.proc.frames.head?.map (·.point)
  | _ => none

/-- A `kill` of this step signals the registered cashier or the registered restaurant, by its
process identifier and never by 0. -/
def KillsRegistered (staff : ParkStaff n) (s : ParkSystem n) (a : ParkAction n) : Prop :=
  match s.handling a with
  | some (.killCashier target) =>
    s.cashier = .registered ∧ target = staff.cashier ∧ target ≠ 0
  | some (.killRestaurant target) => s.phase .restaurant = .initialised restaurantSlot ∧
    target = staff.pid .restaurant ∧ target ≠ 0
  | _ => True

/-- While `HandleSigint` reads a process identifier and signals it, its process is registered. -/
def WhileRegistered (s : ParkSystem n) (a : ParkAction n) : Prop :=
  match s.handling a with
  | some .readCashier | some (.killCashier _) => s.cashier = .registered
  | some .readRestaurant | some (.killRestaurant _) =>
    s.phase .restaurant = .initialised restaurantSlot
  | _ => True

instance (s : ParkSystem n) (a : ParkAction n) : Decidable (s.WhileRegistered a) := by
  unfold WhileRegistered
  split <;> infer_instance

/-- The fields hold what the phases say, and the handlers have read nothing else. -/
structure TargetsKnown (staff : ParkStaff n) (s : ParkSystem n) : Prop where
  slots : s.slots.Balanced staff.toStaff
  cashier : s.main.data.cashierPID = if s.cashier = .registered then staff.cashier else 0
  cashierTarget : ∀ f ∈ s.main.proc.frames, ∀ target, f.point = .killCashier target →
    target = staff.cashier
  restaurantTarget : ∀ f ∈ s.main.proc.frames, ∀ target, f.point = .killRestaurant target →
    target = staff.pid .restaurant

variable {staff : ParkStaff n} {s t : ParkSystem n}

theorem targetsKnown_start (lock : ℕ) : (start lock).TargetsKnown staff where
  slots := SlotSystem.balanced_start false
  cashier := rfl
  cashierTarget _ hf := by cases hf
  restaurantTarget _ hf := by cases hf

/-- A step of another process, which does not touch the manager's calls. -/
theorem TargetsKnown.elsewhere (hs : s.TargetsKnown staff)
    (hslots : t.slots.Balanced staff.toStaff)
    (hcashier : t.main.data.cashierPID = if t.cashier = .registered then staff.cashier else 0)
    (hproc : t.main.proc = s.main.proc) : t.TargetsKnown staff where
  slots := hslots
  cashier := hcashier
  cashierTarget := hproc ▸ hs.cashierTarget
  restaurantTarget := hproc ▸ hs.restaurantTarget

theorem TargetsKnown.worker (hs : s.TargetsKnown staff) {a : SlotAction n}
    (h : s.workerStep staff a = some t) : t.TargetsKnown staff := by
  obtain ⟨slots, hslots, rfl⟩ := Option.map_eq_some_iff.mp h
  refine hs.elsewhere (hs.slots.step hslots) ?_ rfl
  exact (SlotSystem.step_cashierPID hslots).trans hs.cashier

/-- A step of the manager. -/
theorem TargetsKnown.manager (hs : s.TargetsKnown staff) {a : MainAction} {main : MainSystem n}
    (ha : s.WhileRegistered (.manager a)) (h : s.main.step a = some main) :
    TargetsKnown staff { s with main := main } := by
  obtain ⟨hmove, hpids⟩ := MainSystem.step_move h
  have hslots := hs.slots.congr hpids.attractions
  have hcashier := hpids.cashier.trans hs.cashier
  have hframes (hsub : ∀ f ∈ main.proc.frames, f ∈ s.main.proc.frames) :
      TargetsKnown staff { s with main := main } :=
    ⟨hslots, hcashier, fun f hf => hs.cashierTarget f (hsub f hf),
      fun f hf => hs.restaurantTarget f (hsub f hf)⟩
  cases hmove with
  | base _ hp => exact hframes (by simp [hp])
  | stays _ hp => exact hframes (by simp [hp])
  | returns _ f hs' => exact hframes fun g hg => hs' ▸ List.mem_cons_of_mem f hg
  | handles _ ha' signal point point' rest hs' hp hreads =>
    subst ha'
    have hrest (f : HandlerFrame) (hf : f ∈ rest) : f ∈ s.main.proc.frames :=
      hs' ▸ List.mem_cons_of_mem _ hf
    simp only [WhileRegistered, handling, hs', List.head?_cons, Option.map_some] at ha
    refine ⟨hslots, hcashier, fun f hf target htarget => ?_, fun f hf target htarget => ?_⟩
    · obtain rfl | hf := List.mem_cons.mp (hp ▸ hf)
      · -- the handler has just read the cashier's field
        obtain rfl := htarget
        obtain ⟨rfl, rfl⟩ := hreads
        rw [hs.cashier, if_pos ha]
      · exact hs.cashierTarget f (hrest f hf) target htarget
    · obtain rfl | hf := List.mem_cons.mp (hp ▸ hf)
      · obtain rfl := htarget
        obtain ⟨rfl, rfl⟩ := hreads
        exact hs.slots.held .restaurant restaurantSlot ha
      · exact hs.restaurantTarget f (hrest f hf) target htarget
  | delivers _ signal ha' hp =>
    refine ⟨hslots, hcashier, fun f hf target htarget => ?_, fun f hf target htarget => ?_⟩
    · obtain rfl | hf := List.mem_cons.mp (hp ▸ hf)
      · cases htarget
      · obtain ⟨g, hg, hpoint⟩ := HandlerFrame.kill_of_interrupted hf
        exact hs.cashierTarget g hg target ((hpoint target).1 htarget)
    · obtain rfl | hf := List.mem_cons.mp (hp ▸ hf)
      · cases htarget
      · obtain ⟨g, hg, hpoint⟩ := HandlerFrame.kill_of_interrupted hf
        exact hs.restaurantTarget g hg target ((hpoint target).2 htarget)

theorem TargetsKnown.step (hs : s.TargetsKnown staff) {a : ParkAction n}
    (ha : s.WhileRegistered a) (h : ParkSystem.step staff s a = some t) :
    t.TargetsKnown staff := by
  cases a with
  | manager a =>
    obtain ⟨main, hmain, rfl⟩ := Option.map_eq_some_iff.mp h
    exact hs.manager ha hmain
  | init w => exact hs.worker h
  | close w => exact hs.worker h
  | cashierInit =>
    simp only [ParkSystem.step, Option.ite_none_right_eq_some] at h
    obtain ⟨hfresh, h⟩ := h
    have hzero := hs.cashier
    rw [hfresh, if_neg (by simp)] at hzero
    cases hinit : s.main.data.cashierInit staff.cashier with
    | ok data =>
      obtain ⟨-, -, rfl⟩ := SharedData.cashierInit_eq_ok.mp hinit
      simp only [hinit, Option.some.injEq] at h
      subst h
      exact hs.elsewhere (hs.slots.congr rfl) rfl rfl
    | error e =>
      simp only [hinit, Option.some.injEq] at h
      subst h
      exact hs.elsewhere hs.slots (hzero.trans (if_neg (by simp)).symm) rfl
  | cashierClose =>
    simp only [ParkSystem.step, Option.ite_none_left_eq_some, Option.some.injEq] at h
    obtain ⟨-, rfl⟩ := h
    apply hs.elsewhere
    · apply hs.slots.congr
      simp only [SharedData.cashierClose, setData]
      split <;> rfl
    · have hcashier := hs.cashier
      simp only [SharedData.cashierClose, setData, reduceCtorEq, if_false]
      split at hcashier
      · rw [if_pos hcashier]
      · rw [if_neg (by rw [hcashier]; exact Ne.symm staff.cashier_ne_zero), hcashier]
    · rfl
  | lock value =>
    obtain rfl := Option.some.inj h
    exact hs.elsewhere hs.slots hs.cashier rfl

/-- The target of a `kill` while its process is registered. -/
theorem TargetsKnown.kills (hs : s.TargetsKnown staff) {a : ParkAction n}
    (ha : s.WhileRegistered a) : s.KillsRegistered staff a := by
  unfold KillsRegistered
  unfold WhileRegistered at ha
  have hmem (point : HandlerPoint) (h : s.handling a = some point) :
      ∃ f ∈ s.main.proc.frames, f.point = point := by
    cases a with
    | manager a => cases a with
      | main =>
        obtain ⟨f, hf, hpoint⟩ := Option.map_eq_some_iff.mp h
        exact ⟨f, List.mem_of_mem_head? hf, hpoint⟩
      | mainThrows | deliver signal => cases h
    | init | close | cashierInit | cashierClose | lock => cases h
  cases hpoint : s.handling a with
  | none => trivial
  | some point =>
    rw [hpoint] at ha
    obtain ⟨f, hf, hfpoint⟩ := hmem point hpoint
    cases point with
    | killCashier target =>
      have htarget := hs.cashierTarget f hf target hfpoint
      exact ⟨ha, htarget, htarget ▸ staff.cashier_ne_zero⟩
    | killRestaurant target =>
      have htarget := hs.restaurantTarget f hf target hfpoint
      exact ⟨ha, htarget, htarget ▸ staff.ne_zero .restaurant⟩
    | _ => trivial

/-- In every run in which the processes are registered while they are looked up and signalled,
the shutdown signals go to the registered cashier and restaurant only. -/
theorem killsRegistered_of_whileRegistered (staff : ParkStaff n) (lock : ℕ)
    {as : List (ParkAction n)} (has : (machine staff).Meets WhileRegistered (start lock) as) :
    (machine staff).Meets (KillsRegistered staff) (start lock) as :=
  Machine.Meets.of_invariant (I := TargetsKnown staff)
    (fun _ _ _ hs ha h => ⟨hs.step ha h, hs.kills ha⟩) (targetsKnown_start lock) has

/-- 16 attractions, the restaurant and the cashier, with their process identifiers. -/
def someStaff : ParkStaff 16 where
  pid
    | .attraction k => 102 + (k.val : ℤ)
    | .restaurant => 101
  injective v w h := by
    cases v with
    | attraction k => cases w with
      | attraction l =>
        rw [Fin.ext (Int.ofNat_inj.mp (add_left_cancel h))]
      | restaurant =>
        have hk : 102 + (k.val : ℤ) = 101 := h
        omega
    | restaurant => cases w with
      | attraction l =>
        have hl : 101 = 102 + (l.val : ℤ) := h
        omega
      | restaurant => rfl
  ne_zero w := by
    cases w with
    | attraction k =>
      have hk : 102 + (k.val : ℤ) ≠ 0 := by omega
      exact hk
    | restaurant => decide
  cashier := 100
  cashier_ne_zero := by decide

/-- The manager up to `Run`, with a restaurant and a cashier that have registered. -/
def openedPark : List (ParkAction 16) :=
  List.replicate 6 (.manager .main) ++ [.init .restaurant, .cashierInit]

/-- A whole call of `HandleSigint`. -/
def shutdown (signal : Signal) : List (ParkAction 16) :=
  .manager (.deliver signal) :: List.replicate 8 (.manager .main)

/-- One shutdown of an open park, before the cashier and the restaurant have closed. -/
theorem openedPark_killsRegistered :
    (machine someStaff).Meets (KillsRegistered someStaff) (start 1)
      (openedPark ++ shutdown .sigInt) :=
  killsRegistered_of_whileRegistered someStaff 1 (by decide)

/-- A shutdown before the cashier has registered, and a second one after the restaurant has
closed: the `kill` that comes next has the target 0. -/
theorem earlyAndLateShutdown_killGroup :
    (∃ s t, (machine someStaff).exec (start 1) (List.replicate 4 (.manager .main) ++
        .manager (.deliver .sigInt) :: List.replicate 4 (.manager .main)) = some s ∧
      s.handling (.manager .main) = some (.killCashier 0) ∧
      step someStaff s (.manager .main) = some t) ∧
    ∃ s t, (machine someStaff).exec (start 1) (openedPark ++ shutdown .sigInt ++
        [.close .restaurant, .manager (.deliver .sigTerm)] ++
        List.replicate 6 (.manager .main)) = some s ∧
      s.handling (.manager .main) = some (.killRestaurant 0) ∧
      step someStaff s (.manager .main) = some t :=
  ⟨⟨_, _, rfl, rfl, rfl⟩, ⟨_, _, rfl, rfl, rfl⟩⟩

end ParkSystem
end AmusementPark.Main
