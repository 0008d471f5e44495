import AmusementPark.Ipc.MutualExclusion
import AmusementPark.Library.CriticalSection
import AmusementPark.Main.ShutdownSignals

/-! # The critical sections of the park, access by access

The cashier and the workers run the sections of `pInitImpl` and `pCloseImpl`,
and the manager that of `HandleSigint`, under the lock of the shared data. Here
they read and write one field at a time and the lock is the semaphore with its
undo. No signal interrupts a process that waits for the lock. Until a process
exits that has used the lock, every section is one step.
-/
namespace AmusementPark.Main
open Library Library.CriticalSection Ipc Park

instance {n : ℕ} : Fintype (Worker n) :=
  Fintype.ofEquiv (Option (Fin n)) {
    toFun := fun o => o.elim .restaurant .attraction
    invFun := fun w => match w with
      | .attraction k => some k
      | .restaurant => none
    left_inv := fun o => by cases o <;> rfl
    right_inv := fun w => by cases w <;> rfl }

/-- The processes that use the lock. -/
inductive Party (n : ℕ) where
  | manager
  | cashier
  | worker (w : Worker n)
deriving DecidableEq, Fintype

/-- The next access of a section: of `AttractionProc::pInitImpl` with its loop over the slots,
of `RestaurantProc::pInitImpl`, the write that takes or frees a slot, the test of
`RestaurantProc::pCloseImpl`, the same for the cashier, and the write that closes the park. -/
inductive AccessPoint (n : ℕ) where
  | attractionOpen (pid : Pid)
  | testSlot (pid : Pid) (i : ℕ)
  | restaurantOpen (pid : Pid)
  | testRestaurant (pid : Pid)
  | takeSlot (pid : Pid) (i : Fin (n + 1))
  | testOwn (pid : Pid)
  | freeSlot (i : Fin (n + 1))
  | cashierOpen (pid : Pid)
  | testCashier (pid : Pid)
  | registerCashier (pid : Pid)
  | testOwnCashier (pid : Pid)
  | freeCashier
  | closePark
deriving DecidableEq

/-- How a section ends: with an exception, with the slot it has taken, with the cashier
registered, or with nothing to remember. -/
inductive SectionResult (n : ℕ) where
  | throws (e : InitError)
  | slot (id : Fin (n + 1))
  | registered
  | done
deriving DecidableEq

def AccessPoint.access {n : ℕ} (data : SharedData n) :
    AccessPoint n → SharedData n × (AccessPoint n ⊕ SectionResult n)
  | .attractionOpen pid =>
    (data, if data.isOpen then .inl (.testSlot pid 0) else .inr (.throws .parkClosed))
  | .testSlot pid i => (data, if h : i < n + 1 then
      .inl (if data.attractionPID ⟨i, h⟩ = 0 then .takeSlot pid ⟨i, h⟩ else .testSlot pid (i + 1))
    else .inr (.throws .attractionsExist))
  | .restaurantOpen pid =>
    (data, if data.isOpen then .inl (.testRestaurant pid) else .inr (.throws .parkClosed))
  | .testRestaurant pid => (data, if data.attractionPID restaurantSlot ≠ 0 then
      .inr (.throws .restaurantExists) else .inl (.takeSlot pid restaurantSlot))
  | .takeSlot pid i => (data.setAttractionPID i pid, .inr (.slot i))
  | .testOwn pid => (data, if data.attractionPID restaurantSlot = pid then
      .inl (.freeSlot restaurantSlot) else .inr .done)
  | .freeSlot i => (data.setAttractionPID i 0, .inr .done)
  | .cashierOpen pid =>
    (data, if data.isOpen then .inl (.testCashier pid) else .inr (.throws .parkClosed))
  | .testCashier pid => (data, if data.cashierPID ≠ 0 then .inr (.throws .cashierExists)
      else .inl (.registerCashier pid))
  | .registerCashier pid => ({ data with cashierPID := pid }, .inr .registered)
  | .testOwnCashier pid =>
    (data, if data.cashierPID = pid then .inl .freeCashier else .inr .done)
  | .freeCashier => ({ data with cashierPID := 0 }, .inr .done)
  | .closePark => ({ data with isOpen := false }, .inr .done)

/-- The section of a worker's `pInitImpl`. -/
def AccessPoint.init {n : ℕ} (staff : Staff n) : Worker n → AccessPoint n
  | .attraction k => .attractionOpen (staff.pid (.attraction k))
  | .restaurant => .restaurantOpen (staff.pid .restaurant)

/-- The section of a worker's `pCloseImpl`; an attraction without a slot enters none. -/
def AccessPoint.close {n : ℕ} (staff : Staff n) (phase : WorkerPhase n) :
    Worker n → Option (AccessPoint n)
  | .attraction _ => match phase with
    | .initialised id => some (.freeSlot id)
    | _ => none
  | .restaurant => some (.testOwn (staff.pid .restaurant))

/-! ## Whole sections -/

section CashierClose
variable {n : ℕ}

theorem cashierClose_pid (data : SharedData n) (pid : Pid) :
    (data.cashierClose pid).cashierPID = if data.cashierPID = pid then 0 else data.cashierPID := by
  unfold SharedData.cashierClose
  split
  · rfl
  · rfl

theorem cashierClose_keeps (data : SharedData n) (pid : Pid) :
    (data.cashierClose pid).attractionPID = data.attractionPID := by
  unfold SharedData.cashierClose
  split
  · rfl
  · rfl

end CashierClose

/-- The slots with the workers, and the cashier. -/
structure ParkPlaces (n : ℕ) where
  slots : SlotSystem n
  cashier : CashierPhase

inductive PlaceAction (n : ℕ) where
  | slots (a : SlotAction n)
  | cashierInit
  | cashierClose

namespace ParkPlaces
variable {n : ℕ}

def start (isOpen : Bool) : ParkPlaces n := ⟨.start isOpen, .fresh⟩

def data (s : ParkPlaces n) : SharedData n := s.slots.data

def setData (s : ParkPlaces n) (data : SharedData n) : ParkPlaces n :=
  { s with slots := { s.slots with data := data } }

/-- Every section is a single step. -/
def step (staff : ParkStaff n) (s : ParkPlaces n) : PlaceAction n → Option (ParkPlaces n)
  | .slots a => (SlotSystem.step staff.toStaff s.slots a).map fun slots => { s with slots := slots }
  | .cashierInit => if s.cashier = .fresh then
      match s.data.cashierInit staff.cashier with
      | .ok data => some { s.setData data with cashier := .registered }
      | .error e => some { s with cashier := .failed e }
    else none
  | .cashierClose => if s.cashier = .closed then none
    else some { s.setData (s.data.cashierClose staff.cashier) with cashier := .closed }

def machine (staff : ParkStaff n) : Machine (ParkPlaces n) (PlaceAction n) := ⟨step staff⟩

/-- The slots are allocated as they should be, and the cashier's field is that of the registered
cashier, which is never refused by another one. -/
structure Allocated (staff : ParkStaff n) (s : ParkPlaces n) : Prop where
  slots : s.slots.Allocated staff.toStaff
  cashier : s.data.cashierPID = if s.cashier = .registered then staff.cashier else 0
  cashierFits : s.cashier ≠ .failed .cashierExists

structure Balanced (staff : ParkStaff n) (s : ParkPlaces n) : Prop where
  slots : s.slots.Balanced staff.toStaff
  cashier : s.data.cashierPID = if s.cashier = .registered then staff.cashier else 0
  cashierFits : s.cashier ≠ .failed .cashierExists

variable {staff : ParkStaff n} {s t : ParkPlaces n}

theorem balanced_start (isOpen : Bool) : (start isOpen : ParkPlaces n).Balanced staff where
  slots := SlotSystem.balanced_start isOpen
  cashier := rfl
  cashierFits := by rintro ⟨⟩

theorem Balanced.step {a : PlaceAction n} (hs : s.Balanced staff)
    (h : ParkPlaces.step staff s a = some t) : t.Balanced staff := by
  cases a with
  | slots a =>
    obtain ⟨slots, hslots, rfl⟩ := Option.map_eq_some_iff.mp h
    exact ⟨hs.slots.step hslots, (SlotSystem.step_cashierPID hslots).trans hs.cashier,
      hs.cashierFits⟩
  | cashierInit =>
    simp only [ParkPlaces.step, Option.ite_none_right_eq_some] at h
    obtain ⟨hfresh, h⟩ := h
    have hzero : s.data.cashierPID = 0 := by simpa [hfresh] using hs.cashier
    cases hopen : s.data.isOpen with
    | true =>
      simp only [SharedData.cashierInit, hopen, hzero, Bool.not_true, Bool.false_eq_true, if_false,
        ne_eq, not_true_eq_false, Option.some.injEq] at h
      subst h
      exact ⟨hs.slots.congr rfl, rfl, by rintro ⟨⟩⟩
    | false =>
      simp only [SharedData.cashierInit, hopen, Bool.not_false, if_true, Option.some.injEq] at h
      subst h
      exact ⟨hs.slots, hzero, by rintro ⟨⟩⟩
  | cashierClose =>
    simp only [ParkPlaces.step, Option.ite_none_left_eq_some, Option.some.injEq] at h
    obtain ⟨-, rfl⟩ := h
    refine ⟨hs.slots.congr (cashierClose_keeps _ _), ?_, by rintro ⟨⟩⟩
    have hcashier := hs.cashier
    refine (cashierClose_pid _ _).trans ?_
    by_cases hregistered : s.cashier = .registered
    · rw [if_pos hregistered] at hcashier
      rw [if_pos hcashier]
      rfl
    · rw [if_neg hregistered] at hcashier
      rw [hcashier, ite_self]
      rfl

theorem Balanced.allocated (hs : s.Balanced staff) : s.Allocated staff :=
  ⟨hs.slots.allocated, hs.cashier, hs.cashierFits⟩

end ParkPlaces

/-! ## Sections under the lock -/

/-- A worker's phase after one of its sections. -/
def phaseAfter {n : ℕ} : SectionResult n → WorkerPhase n
  | .throws e => .failed e
  | .slot id => .initialised id
  | .registered | .done => .closed

def cashierAfter {n : ℕ} : SectionResult n → CashierPhase
  | .throws e => .failed e
  | .registered => .registered
  | .slot _ | .done => .closed

def ParkPlaces.afterSection {n : ℕ} (s : ParkPlaces n) (p : Party n) (data : SharedData n)
    (r : SectionResult n) : ParkPlaces n :=
  match p with
  | .manager => s.setData data
  | .cashier => { s.setData data with cashier := cashierAfter r }
  | .worker w => { s with slots := s.slots.setPhase w data (phaseAfter r) }

/-- `lock` comes with the number of releases of each process, `inside` with the point where a
section has begun and the next access; `threw` tells how the last section of a process ended. -/
structure SectionSystem (n : ℕ) where
  lock : LockState (Party n) × (Party n → ℕ)
  places : ParkPlaces n
  inside : Party n → Option (AccessPoint n × AccessPoint n)
  threw : Party n → Bool

/-- Entering a section is waiting for the lock to the end. -/
inductive SectionAction (n : ℕ) where
  | init (w : Worker n)
  | close (w : Worker n)
  | cashierInit
  | cashierClose
  | closePark
  | access (p : Party n)
  | leave (p : Party n)
  | destroy (p : Party n)
  | exit (p : Party n)

namespace SectionSystem
variable {n : ℕ}

def start (isOpen : Bool) : SectionSystem n :=
  ⟨(.attached, fun _ => 0), .start isOpen, fun _ => none, fun _ => false⟩

/-- A process uses the lock and does nothing to the data. -/
def lockStep (s : SectionSystem n) (a : LockAction (Party n)) : Option (SectionSystem n) :=
  ((LockState.machine (Party n)).step s.lock a).map fun lock => { s with lock := lock }

/-- A process constructs the lock and begins a section. -/
def enter (s : SectionSystem n) (p : Party n) (p₀ : AccessPoint n) : Option (SectionSystem n) :=
  (s.lockStep (.construct p)).map fun t =>
    { t with inside := Function.update t.inside p (some (p₀, p₀)) }

/-- The last access of a section. -/
def returns (s : SectionSystem n) (p : Party n) (data : SharedData n) (r : SectionResult n) :
    SectionSystem n where
  lock := s.lock
  places := s.places.afterSection p data r
  inside := Function.update s.inside p none
  threw := Function.update s.threw p (match r with
    | .throws _ => true
    | .slot _ | .registered | .done => false)

def step (staff : ParkStaff n) (s : SectionSystem n) : SectionAction n → Option (SectionSystem n)
  | .init w => if s.places.slots.phase w = .fresh then
      s.enter (.worker w) (.init staff.toStaff w) else none
  | .close w =>
    if s.places.slots.phase w = .closed ∨ s.lock.1.phase (.worker w) ≠ .outside then none
    else match AccessPoint.close staff.toStaff (s.places.slots.phase w) w with
      | some p₀ => s.enter (.worker w) p₀
      | none => some { s with places := { s.places with
          slots := s.places.slots.setPhase w s.places.data .closed } }
  | .cashierInit => if s.places.cashier = .fresh then
      s.enter .cashier (.cashierOpen staff.cashier) else none
  | .cashierClose => if s.places.cashier = .closed then none
    else s.enter .cashier (.testOwnCashier staff.cashier)
  | .closePark => s.enter .manager .closePark
  | .access p => match s.inside p with
    | none => none
    | some (p₀, i) => match i.access s.places.data with
      | (data, .inl j) => some { s with
          places := s.places.setData data
          inside := Function.update s.inside p (some (p₀, j)) }
      | (data, .inr r) => some (s.returns p data r)
  -- an exception releases the lock before it is thrown again
  | .leave p => if s.inside p = none then
      s.lockStep (if s.threw p then .functionThrows p else .functionReturns p) else none
  | .destroy p => s.lockStep (.destroy p)
  -- a process does not exit inside a section
  | .exit p => if s.lock.1.phase p = .outside then s.lockStep (.exit p) else none

def machine (staff : ParkStaff n) : Machine (SectionSystem n) (SectionAction n) := ⟨step staff⟩

/-- No process exits that has released the lock before. -/
def ExitsUnreleased (s : SectionSystem n) (a : SectionAction n) : Prop :=
  ∀ p, a = .exit p → s.lock.2 p = 0

end SectionSystem

/-! ## What the sections compute -/

section Computes
variable {n : ℕ}

def attractionInitResult (pid : Pid) (data : SharedData n) : SharedData n × SectionResult n :=
  match data.attractionInit pid with
  | .ok (data', i) => (data', .slot i)
  | .error e => (data, .throws e)

def restaurantInitResult (pid : Pid) (data : SharedData n) : SharedData n × SectionResult n :=
  match data.restaurantInit pid with
  | .ok data' => (data', .slot restaurantSlot)
  | .error e => (data, .throws e)

def cashierInitResult (pid : Pid) (data : SharedData n) : SharedData n × SectionResult n :=
  match data.cashierInit pid with
  | .ok data' => (data', .registered)
  | .error e => (data, .throws e)

/-- What is known in the loop over the slots: nothing has been written, and the slots tested so
far are taken. -/
def ScanInvariant (pid : Pid) (d₀ d : SharedData n) (p : AccessPoint n) : Prop :=
  d = d₀ ∧ (p = .attractionOpen pid ∨ d.isOpen = true ∧
    ((∃ i, p = .testSlot pid i ∧ ∀ j : Fin (n + 1), j.val < i → d.attractionPID j ≠ 0) ∨
      ∃ i, p = .takeSlot pid i ∧ d.firstFree = some i))

theorem firstFree_of_least {data : SharedData n} {i : Fin (n + 1)} (hi : data.attractionPID i = 0)
    (hless : ∀ j : Fin (n + 1), j.val < i.val → data.attractionPID j ≠ 0) :
    data.firstFree = some i := by
  cases hfree : data.firstFree with
  | none => exact absurd hi (SharedData.firstFree_eq_none hfree i)
  | some k =>
    obtain ⟨hk, hleast⟩ := SharedData.firstFree_eq_some hfree
    obtain hlt | rfl := (hleast i hi).lt_or_eq
    · exact absurd hk (hless k hlt)
    · rfl

theorem firstFree_of_taken {data : SharedData n} (h : ∀ j, data.attractionPID j ≠ 0) :
    data.firstFree = none := by
  cases hfree : data.firstFree with
  | none => rfl
  | some k => exact absurd (SharedData.firstFree_eq_some hfree).1 (h k)

theorem ScanInvariant.next {pid : Pid} {d₀ d d' : SharedData n} {p q : AccessPoint n}
    (hI : ScanInvariant pid d₀ d p) (ha : p.access d = (d', .inl q)) :
    ScanInvariant pid d₀ d' q := by
  obtain ⟨rfl, rfl | ⟨hopen, ⟨i, rfl, hless⟩ | ⟨i, rfl, -⟩⟩⟩ := hI
  · cases hopen : d.isOpen with
    | true =>
      simp only [AccessPoint.access, hopen, if_true, Prod.mk.injEq, Sum.inl.injEq] at ha
      obtain ⟨rfl, rfl⟩ := ha
      exact ⟨rfl, .inr ⟨hopen, .inl ⟨0, rfl, fun j hj => absurd hj (Nat.not_lt_zero _)⟩⟩⟩
    | false => simp [AccessPoint.access, hopen] at ha
  · by_cases hi : i < n + 1
    · simp only [AccessPoint.access, hi, dif_pos, Prod.mk.injEq, Sum.inl.injEq] at ha
      obtain ⟨rfl, rfl⟩ := ha
      by_cases hfree : d.attractionPID ⟨i, hi⟩ = 0
      · rw [if_pos hfree]
        exact ⟨rfl, .inr ⟨hopen, .inr ⟨⟨i, hi⟩, rfl, firstFree_of_least hfree hless⟩⟩⟩
      · rw [if_neg hfree]
        refine ⟨rfl, .inr ⟨hopen, .inl ⟨i + 1, rfl, ?_⟩⟩⟩
        intro j hj
        obtain hlt | heq := Nat.lt_succ_iff_lt_or_eq.mp hj
        · exact hless j hlt
        · rwa [show j = ⟨i, hi⟩ from Fin.ext heq]
    · simp [AccessPoint.access, hi] at ha
  · simp [AccessPoint.access] at ha

theorem ScanInvariant.returns {pid : Pid} {d₀ d d' : SharedData n} {p : AccessPoint n}
    {r : SectionResult n} (hI : ScanInvariant pid d₀ d p) (ha : p.access d = (d', .inr r)) :
    attractionInitResult pid d₀ = (d', r) := by
  obtain ⟨rfl, rfl | ⟨hopen, ⟨i, rfl, hless⟩ | ⟨i, rfl, hfree⟩⟩⟩ := hI
  · cases hopen : d.isOpen with
    | true => simp [AccessPoint.access, hopen] at ha
    | false =>
      simp only [AccessPoint.access, hopen, Bool.false_eq_true, if_false, Prod.mk.injEq,
        Sum.inr.injEq] at ha
      obtain ⟨rfl, rfl⟩ := ha
      simp [attractionInitResult, SharedData.attractionInit, hopen]
  · by_cases hi : i < n + 1
    · simp [AccessPoint.access, hi] at ha
    · simp only [AccessPoint.access, hi, dif_neg, not_false_eq_true, Prod.mk.injEq,
        Sum.inr.injEq] at ha
      obtain ⟨rfl, rfl⟩ := ha
      have hnone : d.firstFree = none := firstFree_of_taken fun j => hless j (by omega)
      simp [attractionInitResult, SharedData.attractionInit, hopen, hnone]
  · simp only [AccessPoint.access, Prod.mk.injEq, Sum.inr.injEq] at ha
    obtain ⟨rfl, rfl⟩ := ha
    simp [attractionInitResult, SharedData.attractionInit, hopen, hfree]

theorem computes_attractionInit (pid : Pid) :
    Computes AccessPoint.access (.attractionOpen pid : AccessPoint n) (attractionInitResult pid) :=
  computes_of_invariant (ScanInvariant pid) (fun _ => ⟨rfl, .inl rfl⟩)
    (fun _ _ _ _ _ hI ha => hI.next ha) fun _ _ _ _ _ hI ha => hI.returns ha

/-- A section that looks whether the park is open, then whether it comes too late, and writes. -/
theorem computes_guarded {openPoint writePoint : AccessPoint n} {e : InitError}
    {r : SectionResult n} (testPoint : AccessPoint n) (taken : SharedData n → Prop)
    [DecidablePred taken] (write : SharedData n → SharedData n)
    (hopen : ∀ d, openPoint.access d =
      (d, if d.isOpen then .inl testPoint else .inr (.throws .parkClosed)))
    (htest : ∀ d, testPoint.access d = (d, if taken d then .inr (.throws e) else .inl writePoint))
    (hwrite : ∀ d, writePoint.access d = (write d, .inr r)) :
    Computes AccessPoint.access openPoint fun d =>
      if d.isOpen then if taken d then (d, .throws e) else (write d, r)
      else (d, .throws .parkClosed) := by
  apply computes_of_invariant (fun d₀ d p => d = d₀ ∧ (p = openPoint ∨
    p = testPoint ∧ d.isOpen = true ∨ p = writePoint ∧ d.isOpen = true ∧ ¬ taken d))
    fun _ => ⟨rfl, .inl rfl⟩
  · rintro d₀ d p d' q ⟨rfl, rfl | ⟨rfl, hd⟩ | ⟨rfl, -⟩⟩ ha
    · rw [hopen] at ha
      cases hd : d.isOpen with
      | true =>
        simp only [hd, if_true, Prod.mk.injEq, Sum.inl.injEq] at ha
        obtain ⟨rfl, rfl⟩ := ha
        exact ⟨rfl, .inr (.inl ⟨rfl, hd⟩)⟩
      | false => simp [hd] at ha
    · rw [htest] at ha
      by_cases htaken : taken d
      · simp [htaken] at ha
      · simp only [htaken, if_false, Prod.mk.injEq, Sum.inl.injEq] at ha
        obtain ⟨rfl, rfl⟩ := ha
        exact ⟨rfl, .inr (.inr ⟨rfl, hd, htaken⟩)⟩
    · simp [hwrite] at ha
  · rintro d₀ d p d' r' ⟨rfl, rfl | ⟨rfl, hd⟩ | ⟨rfl, hd, hfree⟩⟩ ha
    · rw [hopen] at ha
      cases hd : d.isOpen with
      | true => simp [hd] at ha
      | false => simpa [hd] using ha
    · rw [htest] at ha
      by_cases htaken : taken d
      · simpa [hd, htaken] using ha
      · simp [htaken] at ha
    · rw [hwrite] at ha
      simpa [hd, hfree] using ha

theorem computes_restaurantInit (pid : Pid) :
    Computes AccessPoint.access (.restaurantOpen pid : AccessPoint n)
      (restaurantInitResult pid) := by
  have h := computes_guarded (n := n) (e := .restaurantExists) (r := .slot restaurantSlot)
    (.testRestaurant pid) (fun d => d.attractionPID restaurantSlot ≠ 0)
    (fun d => d.setAttractionPID restaurantSlot pid)
    (fun _ => rfl : ∀ d, (AccessPoint.restaurantOpen pid).access d = _) (fun _ => rfl) fun _ => rfl
  convert h using 2 with d
  unfold restaurantInitResult SharedData.restaurantInit
  cases d.isOpen with
  | true => by_cases hfree : d.attractionPID restaurantSlot = 0 <;> simp [hfree]
  | false => rfl

theorem computes_cashierInit (pid : Pid) :
    Computes AccessPoint.access (.cashierOpen pid : AccessPoint n) (cashierInitResult pid) := by
  have h := computes_guarded (n := n) (e := .cashierExists) (r := .registered)
    (.testCashier pid) (fun d => d.cashierPID ≠ 0) (fun d => { d with cashierPID := pid })
    (fun _ => rfl : ∀ d, (AccessPoint.cashierOpen pid).access d = _) (fun _ => rfl) fun _ => rfl
  convert h using 2 with d
  unfold cashierInitResult SharedData.cashierInit
  cases d.isOpen with
  | true => by_cases hfree : d.cashierPID = 0 <;> simp [hfree]
  | false => rfl

/-- A section of one write. -/
theorem computes_write {p₀ : AccessPoint n} {write : SharedData n → SharedData n}
    {r : SectionResult n} (hwrite : ∀ d, p₀.access d = (write d, .inr r)) :
    Computes AccessPoint.access p₀ fun d => (write d, r) := by
  apply computes_of_invariant (fun d₀ d p => d = d₀ ∧ p = p₀) fun _ => ⟨rfl, rfl⟩
  · rintro d₀ d p d' q ⟨rfl, rfl⟩ ha
    simp [hwrite] at ha
  · rintro d₀ d p d' r' ⟨rfl, rfl⟩ ha
    simpa [hwrite] using ha

/-- A section that gives back what the process finds to be its own. -/
theorem computes_owned {testPoint freePoint : AccessPoint n} {own : SharedData n → Prop}
    [DecidablePred own] {free : SharedData n → SharedData n}
    (htest : ∀ d, testPoint.access d = (d, if own d then .inl freePoint else .inr .done))
    (hfree : ∀ d, freePoint.access d = (free d, .inr .done)) :
    Computes AccessPoint.access testPoint fun d => (if own d then free d else d, .done) := by
  apply computes_of_invariant (fun d₀ d p => d = d₀ ∧ (p = testPoint ∨ p = freePoint ∧ own d))
    fun _ => ⟨rfl, .inl rfl⟩
  · rintro d₀ d p d' q ⟨rfl, rfl | ⟨rfl, -⟩⟩ ha
    · rw [htest] at ha
      by_cases hown : own d
      · simp only [hown, if_true, Prod.mk.injEq, Sum.inl.injEq] at ha
        obtain ⟨rfl, rfl⟩ := ha
        exact ⟨rfl, .inr ⟨rfl, hown⟩⟩
      · simp [hown] at ha
    · simp [hfree] at ha
  · rintro d₀ d p d' r ⟨rfl, rfl | ⟨rfl, hown⟩⟩ ha
    · rw [htest] at ha
      by_cases hown : own d
      · simp [hown] at ha
      · simpa [hown] using ha
    · rw [hfree] at ha
      simpa [hown] using ha

end Computes

/-! ## The lock -/

section Lock
variable {P : Type*} [DecidableEq P] [Fintype P]

/-- The process that uses the lock. -/
def lockParty : LockAction P → P
  | .construct p | .functionReturns p | .functionThrows p | .destroy p | .exit p => p

omit [Fintype P] in
theorem lock_others {x y : LockState P × (P → ℕ)} {a : LockAction P}
    (h : (LockState.machine P).step x a = some y) {q : P} (hq : q ≠ lockParty a) :
    y.1.phase q = x.1.phase q := by
  obtain ⟨hstep, -⟩ := Machine.observe_step.mp h
  obtain ⟨t, m⟩ := y
  dsimp only at hstep
  cases a with
  | construct p =>
    simp only [LockState.step, Option.ite_none_right_eq_some, Option.map_eq_some_iff] at hstep
    obtain ⟨-, S, -, rfl⟩ := hstep
    exact Function.update_of_ne hq ..
  | exit p =>
    simp only [LockState.step, Option.ite_none_left_eq_some, Option.some.injEq] at hstep
    obtain ⟨-, rfl⟩ := hstep
    exact Function.update_of_ne hq ..
  | functionReturns p | functionThrows p | destroy p =>
    simp only [LockState.step] at hstep
    split at hstep
    · obtain rfl := Option.some.inj hstep
      exact Function.update_of_ne hq ..
    · cases hstep

/-- Who gets the lock finds nobody inside, and is inside then. -/
theorem lock_construct {x y : LockState P × (P → ℕ)} (hx : LockState.Balanced x) {p : P}
    (h : (LockState.machine P).step x (.construct p) = some y) :
    (∀ q, ¬ (x.1.phase q).Inside) ∧ y.1.phase p = .executing ⟨1, false⟩ := by
  obtain ⟨hstep, -⟩ := Machine.observe_step.mp h
  obtain ⟨t, m⟩ := y
  simp only [LockState.step, Option.ite_none_right_eq_some, Option.map_eq_some_iff] at hstep
  obtain ⟨-, S, hS, rfl⟩ := hstep
  obtain ⟨hroom, -⟩ := wait_one_eq_some.mp hS
  refine ⟨?_, Function.update_self ..⟩
  intro q hq
  have hpos : 0 < x.1.inside := by
    apply Finset.card_pos.mpr
    exact ⟨q, Finset.mem_filter.mpr ⟨Finset.mem_univ q, hq⟩⟩
  have htotal := hx.total
  omega

end Lock

/-! ## Sections as steps -/

namespace SectionSystem
variable {n : ℕ} {staff : ParkStaff n} {x y : SectionSystem n} {v : ParkPlaces n} {p : Party n}
  {p₀ i : AccessPoint n}

/-- The sections that a process may be in. -/
inductive Begins (staff : ParkStaff n) (v : ParkPlaces n) : Party n → AccessPoint n → Prop where
  | init (w : Worker n) (h : v.slots.phase w = .fresh) :
      Begins staff v (.worker w) (.init staff.toStaff w)
  | close (w : Worker n) {p₀ : AccessPoint n} (h : v.slots.phase w ≠ .closed)
      (hclose : AccessPoint.close staff.toStaff (v.slots.phase w) w = some p₀) :
      Begins staff v (.worker w) p₀
  | cashierInit (h : v.cashier = .fresh) : Begins staff v .cashier (.cashierOpen staff.cashier)
  | cashierClose (h : v.cashier ≠ .closed) :
      Begins staff v .cashier (.testOwnCashier staff.cashier)
  | closePark : Begins staff v .manager .closePark

/-- A worker's section computes what a step of the slots does. -/
theorem slots_step {w : Worker n} {a : SlotAction n}
    {f : SharedData n → SharedData n × SectionResult n}
    (hf : ∀ d r, f v.data = (d, r) → SlotSystem.step staff.toStaff v.slots a =
      some (v.slots.setPhase w d (phaseAfter r))) (d : SharedData n) (r : SectionResult n)
    (hresult : f v.data = (d, r)) :
    ParkPlaces.step staff v (.slots a) = some (v.afterSection (.worker w) d r) := by
  rw [ParkPlaces.step, hf d r hresult]
  rfl

theorem init_computes {w : Worker n} (hfresh : v.slots.phase w = .fresh) :
    ∃ f, Computes AccessPoint.access (AccessPoint.init staff.toStaff w) f ∧
      ∀ d r, f v.data = (d, r) → SlotSystem.step staff.toStaff v.slots (.init w) =
        some (v.slots.setPhase w d (phaseAfter r)) := by
  cases w with
  | attraction k =>
    refine ⟨_, computes_attractionInit _, ?_⟩
    intro d r hf
    rw [SlotSystem.step, if_pos hfresh, SlotSystem.pInitImpl]
    unfold attractionInitResult at hf
    cases hinit : v.slots.data.attractionInit (staff.pid (.attraction k)) with
    | error e =>
      rw [ParkPlaces.data, hinit] at hf
      obtain ⟨rfl, rfl⟩ := Prod.mk.inj hf
      rfl
    | ok result =>
      rw [ParkPlaces.data, hinit] at hf
      obtain ⟨rfl, rfl⟩ := Prod.mk.inj hf
      rfl
  | restaurant =>
    refine ⟨_, computes_restaurantInit _, ?_⟩
    intro d r hf
    rw [SlotSystem.step, if_pos hfresh, SlotSystem.pInitImpl]
    unfold restaurantInitResult at hf
    cases hinit : v.slots.data.restaurantInit (staff.pid .restaurant) with
    | error e =>
      rw [ParkPlaces.data, hinit] at hf
      obtain ⟨rfl, rfl⟩ := Prod.mk.inj hf
      rfl
    | ok result =>
      rw [ParkPlaces.data, hinit] at hf
      obtain ⟨rfl, rfl⟩ := Prod.mk.inj hf
      rfl

theorem close_computes {w : Worker n} (hopen : v.slots.phase w ≠ .closed)
    (hclose : AccessPoint.close staff.toStaff (v.slots.phase w) w = some p₀) :
    ∃ f, Computes AccessPoint.access p₀ f ∧
      ∀ d r, f v.data = (d, r) → SlotSystem.step staff.toStaff v.slots (.close w) =
        some (v.slots.setPhase w d (phaseAfter r)) := by
  cases w with
  | attraction k =>
    cases hphase : v.slots.phase (.attraction k) with
    | initialised id =>
      rw [hphase] at hclose
      obtain rfl := Option.some.inj hclose
      refine ⟨_, computes_write fun _ => rfl, ?_⟩
      intro d r hf
      obtain ⟨rfl, rfl⟩ := Prod.mk.inj hf
      rw [SlotSystem.step, if_neg hopen, SlotSystem.pCloseImpl, hphase]
      rfl
    | fresh | failed e | closed =>
      rw [hphase] at hclose
      cases hclose
  | restaurant =>
    obtain rfl := Option.some.inj hclose
    refine ⟨_, computes_owned (fun _ => rfl) fun _ => rfl, ?_⟩
    intro d r hf
    obtain ⟨rfl, rfl⟩ := Prod.mk.inj hf
    rw [SlotSystem.step, if_neg hopen]
    rfl

/-- Each of the sections computes what a single step does. -/
theorem Begins.step (h : Begins staff v p p₀) : ∃ f a, Computes AccessPoint.access p₀ f ∧
    ∀ d r, f v.data = (d, r) → ParkPlaces.step staff v a = some (v.afterSection p d r) := by
  cases h with
  | init w hfresh =>
    obtain ⟨f, hcomputes, hf⟩ := init_computes hfresh
    exact ⟨f, .slots (.init w), hcomputes, slots_step hf⟩
  | close w hopen hclose =>
    obtain ⟨f, hcomputes, hf⟩ := close_computes hopen hclose
    exact ⟨f, .slots (.close w), hcomputes, slots_step hf⟩
  | cashierInit hfresh =>
    refine ⟨_, .cashierInit, computes_cashierInit _, ?_⟩
    intro d r hf
    rw [ParkPlaces.step, if_pos hfresh]
    unfold cashierInitResult at hf
    cases hinit : v.data.cashierInit staff.cashier with
    | error e =>
      rw [hinit] at hf
      obtain ⟨rfl, rfl⟩ := Prod.mk.inj hf
      rfl
    | ok result =>
      rw [hinit] at hf
      obtain ⟨rfl, rfl⟩ := Prod.mk.inj hf
      rfl
  | cashierClose hopen =>
    refine ⟨_, .cashierClose, computes_owned (fun _ => rfl) fun _ => rfl, ?_⟩
    intro d r hf
    obtain ⟨rfl, rfl⟩ := Prod.mk.inj hf
    rw [ParkPlaces.step, if_neg hopen]
    rfl
  | closePark =>
    refine ⟨_, .slots .closePark, computes_write fun _ => rfl, ?_⟩
    intro d r hf
    obtain ⟨rfl, rfl⟩ := Prod.mk.inj hf
    rfl

/-- The places between whole sections, for a state in which a process may be inside one. -/
structure Refines (staff : ParkStaff n) (x : SectionSystem n) (v : ParkPlaces n) : Prop where
  phase : x.places.slots.phase = v.slots.phase
  cashier : x.places.cashier = v.cashier
  progress : Progress AccessPoint.access x.inside v.data x.places.data
  balanced : LockState.Balanced x.lock
  held : ∀ p, x.inside p ≠ none → x.lock.1.phase p = .executing ⟨1, false⟩
  begun : ∀ p p₀ i, x.inside p = some (p₀, i) → Begins staff v p p₀

theorem refines_start (isOpen : Bool) :
    Refines staff (start isOpen) (ParkPlaces.start isOpen) where
  phase := rfl
  cashier := rfl
  progress := .outside _
  balanced := LockState.balanced_attached
  held _ hp := absurd rfl hp
  begun _ _ _ hp := by cases hp

/-- Between sections the places are those of the state. -/
theorem Refines.eq_places (h : Refines staff x v) (hnone : ∀ p, x.inside p = none) :
    v = x.places := by
  have hdata := h.progress.untouched hnone
  have hphase := h.phase
  have hcashier := h.cashier
  obtain ⟨⟨data, phase⟩, cashier⟩ := v
  obtain ⟨lock, ⟨⟨data', phase'⟩, cashier'⟩, inside, threw⟩ := x
  simp only [ParkPlaces.data] at hdata hphase hcashier
  subst hdata hphase hcashier
  rfl

theorem Refines.lockStep (h : Refines staff x v) {a : LockAction (Party n)}
    (ha : LockState.ExitsUnreleased x.lock a) (houtside : x.inside (lockParty a) = none)
    (hy : x.lockStep a = some y) : Refines staff y v := by
  obtain ⟨lock, hlock, rfl⟩ := Option.map_eq_some_iff.mp hy
  refine ⟨h.phase, h.cashier, h.progress, h.balanced.step ha hlock, ?_, h.begun⟩
  intro p hp
  have hne : p ≠ lockParty a := by
    rintro rfl
    exact hp houtside
  exact (lock_others hlock hne).trans (h.held p hp)

theorem Refines.enter (h : Refines staff x v) (hbegins : Begins staff v p p₀)
    (hy : x.enter p p₀ = some y) : Refines staff y v := by
  obtain ⟨t, ht, rfl⟩ := Option.map_eq_some_iff.mp hy
  obtain ⟨lock, hlock, rfl⟩ := Option.map_eq_some_iff.mp ht
  obtain ⟨hnobody, hself⟩ := lock_construct h.balanced hlock
  have hnone (q : Party n) : x.inside q = none := by
    by_contra hq
    apply hnobody q
    rw [h.held q hq]
    exact (inside_executing _).mpr rfl
  refine ⟨h.phase, h.cashier, h.progress.enter hnone p p₀,
    h.balanced.step (by rintro q ⟨⟩) hlock, ?_, ?_⟩
  · intro q hq
    by_cases hqp : q = p
    · rw [hqp]
      exact hself
    · dsimp only at hq
      rw [Function.update_of_ne hqp, hnone q] at hq
      exact absurd rfl hq
  · intro q q₀ j hq
    dsimp only at hq
    by_cases hqp : q = p
    · rw [hqp, Function.update_self, Option.some.injEq, Prod.mk.injEq] at hq
      rw [hqp, ← hq.1]
      exact hbegins
    · rw [Function.update_of_ne hqp, hnone q] at hq
      cases hq

/-- An access that is not the last is no step of the places, the last one is. -/
theorem Refines.access (h : Refines staff x v) (hp : x.inside p = some (p₀, i))
    (hy : step staff x (.access p) = some y) :
    ∃ as u, (ParkPlaces.machine staff).exec v as = some u ∧ Refines staff y u := by
  have hothers (q : Party n) (hq : q ≠ p) : x.inside q = none := h.progress.eq_none hp hq
  rcases ha : i.access x.places.data with ⟨data, j | r⟩
  · simp only [step, hp, ha, Option.some.injEq] at hy
    subst hy
    refine ⟨[], v, rfl, h.phase, h.cashier, h.progress.next hp ha, h.balanced, ?_, ?_⟩
    · intro q hq
      by_cases hqp : q = p
      · exact h.held q (by rw [hqp, hp]; exact Option.some_ne_none _)
      · dsimp only at hq
        rw [Function.update_of_ne hqp] at hq
        exact h.held q hq
    · intro q q₀ k hq
      dsimp only at hq
      by_cases hqp : q = p
      · rw [hqp, Function.update_self, Option.some.injEq, Prod.mk.injEq] at hq
        rw [hqp, ← hq.1]
        exact h.begun p p₀ i hp
      · rw [Function.update_of_ne hqp, hothers q hqp] at hq
        cases hq
  · simp only [step, hp, ha, Option.some.injEq] at hy
    subst hy
    obtain ⟨f, a, hf, hstep⟩ := (h.begun p p₀ i hp).step
    obtain ⟨hresult, hprogress⟩ := h.progress.returns hp ha hf
    have hnone (q : Party n) : (x.returns p data r).inside q = none := by
      dsimp only [returns]
      by_cases hqp : q = p
      · rw [hqp, Function.update_self]
      · rw [Function.update_of_ne hqp, hothers q hqp]
    have hsection : x.places.afterSection p data r = v.afterSection p data r := by
      have hphase := h.phase
      have hcashier := h.cashier
      cases p with
      | manager => simp only [ParkPlaces.afterSection, ParkPlaces.setData, hphase, hcashier]
      | cashier => simp only [ParkPlaces.afterSection, ParkPlaces.setData, hphase]
      | worker w =>
        simp only [ParkPlaces.afterSection, SlotSystem.setPhase, hphase, hcashier]
    have hdata : (v.afterSection p data r).data = data := by cases p <;> rfl
    refine ⟨[a], v.afterSection p data r, ?_, ?_, ?_, ?_, h.balanced, ?_, ?_⟩
    · rw [Machine.exec_cons_eq_some]
      exact ⟨_, hstep data r hresult, rfl⟩
    · exact congrArg (·.slots.phase) hsection
    · exact congrArg ParkPlaces.cashier hsection
    · dsimp only [returns]
      rw [hsection, hdata]
      exact hprogress
    · intro q hq
      exact absurd (hnone q) hq
    · intro q q₀ k hq
      rw [hnone q] at hq
      cases hq

theorem Begins.setPhase {w : Worker n} {data : SharedData n} {phase : WorkerPhase n}
    (h : Begins staff v p p₀) (hp : p ≠ .worker w) :
    Begins staff { v with slots := v.slots.setPhase w data phase } p p₀ := by
  cases h with
  | init u hfresh =>
    refine .init u ?_
    exact (SlotSystem.setPhase_of_ne (fun hu => hp (congrArg _ hu)) data phase).trans hfresh
  | close u hopen hclose =>
    have hphase := SlotSystem.setPhase_of_ne (s := v.slots) (fun hu => hp (congrArg _ hu)) data
      phase
    exact .close u (by rwa [hphase]) (by rwa [hphase])
  | cashierInit hfresh => exact .cashierInit hfresh
  | cashierClose hopen => exact .cashierClose hopen
  | closePark => exact .closePark

/-- A worker without a slot closes beside whoever is inside a section. -/
theorem Refines.closeUnslotted (h : Refines staff x v) {w : Worker n}
    (houtside : x.lock.1.phase (.worker w) = .outside) :
    Refines staff
      { x with places := { x.places with
          slots := x.places.slots.setPhase w x.places.data .closed } }
      { v with slots := v.slots.setPhase w v.data .closed } where
  phase := by
    simp only [SlotSystem.setPhase, h.phase]
  cashier := h.cashier
  progress := h.progress
  balanced := h.balanced
  held := h.held
  begun q q₀ j hq := by
    apply (h.begun q q₀ j hq).setPhase
    rintro rfl
    have hheld := h.held (.worker w) (by rw [hq]; exact Option.some_ne_none _)
    rw [houtside] at hheld
    cases hheld

theorem Refines.close (h : Refines staff x v) {w : Worker n}
    (hy : SectionSystem.step staff x (.close w) = some y) :
    ∃ as u, (ParkPlaces.machine staff).exec v as = some u ∧ Refines staff y u := by
  simp only [SectionSystem.step, Option.ite_none_left_eq_some, not_or, not_not] at hy
  obtain ⟨⟨hopen, houtside⟩, hy⟩ := hy
  rw [h.phase] at hopen hy
  cases hclose : AccessPoint.close staff.toStaff (v.slots.phase w) w with
  | some p₀ =>
    rw [hclose] at hy
    exact ⟨[], v, rfl, h.enter (.close w hopen hclose) hy⟩
  | none =>
    rw [hclose] at hy
    obtain rfl := Option.some.inj hy
    cases w with
    | restaurant => cases hclose
    | attraction k =>
      refine ⟨[.slots (.close (.attraction k))], _, ?_, h.closeUnslotted houtside⟩
      have hnoSlot : v.slots.pCloseImpl staff.toStaff (.attraction k) = v.data := by
        unfold SlotSystem.pCloseImpl
        cases hphase : v.slots.phase (.attraction k) with
        | initialised id =>
          rw [hphase] at hclose
          cases hclose
        | fresh | failed e | closed =>
          simp only [hphase]
          rfl
      rw [Machine.exec_cons_eq_some]
      refine ⟨_, ?_, rfl⟩
      simp only [ParkPlaces.machine, ParkPlaces.step, SlotSystem.step, if_neg hopen, hnoSlot,
        Option.map_some]

theorem Refines.step {a : SectionAction n} (h : Refines staff x v) (ha : x.ExitsUnreleased a)
    (hy : SectionSystem.step staff x a = some y) :
    ∃ as u, (ParkPlaces.machine staff).exec v as = some u ∧ Refines staff y u := by
  cases a with
  | init w =>
    simp only [SectionSystem.step, Option.ite_none_right_eq_some] at hy
    obtain ⟨hfresh, hy⟩ := hy
    exact ⟨[], v, rfl, h.enter (.init w (h.phase ▸ hfresh)) hy⟩
  | close w => exact h.close hy
  | cashierInit =>
    simp only [SectionSystem.step, Option.ite_none_right_eq_some] at hy
    obtain ⟨hfresh, hy⟩ := hy
    exact ⟨[], v, rfl, h.enter (.cashierInit (h.cashier ▸ hfresh)) hy⟩
  | cashierClose =>
    simp only [SectionSystem.step, Option.ite_none_left_eq_some] at hy
    obtain ⟨hopen, hy⟩ := hy
    exact ⟨[], v, rfl, h.enter (.cashierClose (h.cashier ▸ hopen)) hy⟩
  | closePark => exact ⟨[], v, rfl, h.enter .closePark hy⟩
  | access p =>
    cases hp : x.inside p with
    | none => simp [SectionSystem.step, hp] at hy
    | some e => exact h.access hp hy
  | leave p =>
    simp only [SectionSystem.step, Option.ite_none_right_eq_some] at hy
    obtain ⟨hinside, hy⟩ := hy
    cases hthrew : x.threw p with
    | true =>
      rw [hthrew, if_pos rfl] at hy
      refine ⟨[], v, rfl, h.lockStep (a := .functionThrows p) ?_ hinside hy⟩
      rintro q ⟨⟩
    | false =>
      rw [hthrew, if_neg Bool.false_ne_true] at hy
      refine ⟨[], v, rfl, h.lockStep (a := .functionReturns p) ?_ hinside hy⟩
      rintro q ⟨⟩
  | destroy p =>
    refine ⟨[], v, rfl, h.lockStep (by rintro q ⟨⟩) ?_ hy⟩
    by_contra hinside
    have hheld := h.held p hinside
    obtain ⟨lock, hlock, -⟩ := Option.map_eq_some_iff.mp hy
    obtain ⟨hstep, -⟩ := Machine.observe_step.mp hlock
    simp [LockState.step, hheld] at hstep
  | exit p =>
    simp only [SectionSystem.step, Option.ite_none_right_eq_some] at hy
    obtain ⟨houtside, hy⟩ := hy
    refine ⟨[], v, rfl, h.lockStep ?_ ?_ hy⟩
    · rintro q ⟨⟩
      exact ha p rfl
    · by_contra hinside
      rw [h.held p hinside] at houtside
      cases houtside

/-- The data are what some order of whole sections makes of them, and allocated as they should
be; a section that is under way has not begun there. -/
def AtomicallyAllocated (staff : ParkStaff n) (isOpen : Bool) (x : SectionSystem n) : Prop :=
  ∃ as v, (ParkPlaces.machine staff).exec (ParkPlaces.start isOpen) as = some v ∧
    v.slots.phase = x.places.slots.phase ∧ v.cashier = x.places.cashier ∧
    ((∀ p, x.inside p = none) → v = x.places) ∧ v.Allocated staff

/-- In every run in which no signal interrupts a lock and no process exits that has released the
lock before, reading and writing the shared data field by field under the semaphore has the effect
of whole sections, one at a time. -/
theorem atomicallyAllocated_of_exitsUnreleased (staff : ParkStaff n) (isOpen : Bool)
    (as : List (SectionAction n))
    (has : (machine staff).Meets ExitsUnreleased (start isOpen) as) :
    (machine staff).Always (AtomicallyAllocated staff isOpen) (start isOpen) as := by
  have hrelated := Machine.always_related (N := ParkPlaces.machine staff) (R := Refines staff)
    (fun _ _ _ _ h ha hy => h.step ha hy) (refines_start isOpen) has
  apply hrelated.mono
  rintro x ⟨bs, v, hv, hx⟩
  refine ⟨bs, v, hv, hx.phase.symm, hx.cashier.symm, hx.eq_places, ?_⟩
  have hbalanced := Machine.always_of_invariant (M := ParkPlaces.machine staff)
    (fun _ hs => hs) (fun _ _ _ (hs : ParkPlaces.Balanced staff _) h => hs.step h) bs
    (ParkPlaces.balanced_start isOpen)
  exact (hbalanced.of_exec hv).allocated

/-- Two attractions, a restaurant and a cashier. -/
def smallStaff : ParkStaff 2 where
  pid w := match w with
    | .attraction k => [11, 12].get k
    | .restaurant => 10
  injective := by decide
  ne_zero := by decide
  cashier := 9
  cashier_ne_zero := by decide

/-- The second attraction finds the first slot taken; the park closes before the restaurant
starts, which is refused, and the cashier and the first attraction close again. -/
def lateRestaurant : List (SectionAction 2) :=
  let whole (p : Party 2) (accesses : ℕ) : List (SectionAction 2) :=
    List.replicate accesses (.access p) ++ [.leave p, .destroy p]
  .cashierInit :: whole .cashier 3 ++
    .init (.attraction 0) :: whole (.worker (.attraction 0)) 3 ++
      .init (.attraction 1) :: whole (.worker (.attraction 1)) 4 ++
        .closePark :: whole .manager 1 ++
          .init .restaurant :: whole (.worker .restaurant) 1 ++
            .cashierClose :: whole .cashier 2 ++
              .close (.attraction 0) :: whole (.worker (.attraction 0)) 1

theorem lateRestaurant_allocated :
    (machine smallStaff).Always (AtomicallyAllocated smallStaff true) (start true)
      lateRestaurant :=
  atomicallyAllocated_of_exitsUnreleased smallStaff true lateRestaurant <|
    Machine.meets_of_mem (by rintro a ha s p rfl; revert ha; simp [lateRestaurant]) _

end SectionSystem
end AmusementPark.Main
