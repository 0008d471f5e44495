import AmusementPark.SimulationData

/-! # The shared simulation data

`SimulationData` in shared memory and what each process does with it inside
`GetSemLock().Execute`. The park has `n + 1` attractions, the restaurant is the
last one.
-/
namespace AmusementPark.Park

/-- The fields of `SimulationData` that decide who works and who is signalled. -/
structure SharedData (n : ℕ) where
  isOpen : Bool
  cashierPID : Pid
  attractionPID : Fin (n + 1) → Pid

/-- `RESTAURANT_INDEX`, which is `ATTRACTION_COUNT - 1`. -/
def restaurantSlot {n : ℕ} : Fin (n + 1) := Fin.last n

/-- The exceptions thrown inside the critical sections of `pInitImpl`. -/
inductive InitError where
  | parkClosed
  | cashierExists
  | attractionsExist
  | restaurantExists
deriving DecidableEq

def InitError.what : InitError → String
  | .parkClosed => "park is closed!"
  | .cashierExists => "cashier already exists!"
  | .attractionsExist => "all atractions already exist!"
  | .restaurantExists => "restaurant already exists!"

namespace SharedData
variable {n : ℕ}

/-- The memory as the manager creates it. -/
def created (isOpen : Bool) : SharedData n := ⟨isOpen, 0, fun _ => 0⟩

def setAttractionPID (data : SharedData n) (i : Fin (n + 1)) (pid : Pid) : SharedData n :=
  { data with attractionPID := Function.update data.attractionPID i pid }

/-! ## The critical sections of `pInitImpl` and `pCloseImpl` -/

/-- The search loop of `AttractionProc::pInitImpl`. -/
def firstFree (data : SharedData n) : Option (Fin (n + 1)) :=
  (List.finRange (n + 1)).find? fun i => decide (data.attractionPID i = 0)

/-- `AttractionProc::pInitImpl`; the second component is `m_attractionID`. -/
def attractionInit (pid : Pid) (data : SharedData n) :
    Except InitError (SharedData n × Fin (n + 1)) :=
  if !data.isOpen then .error .parkClosed
  else match data.firstFree with
    | none => .error .attractionsExist
    | some i => .ok (data.setAttractionPID i pid, i)

/-- `AttractionProc::pCloseImpl`; without an identifier it does not enter the section. -/
def attractionClose (attractionID : Option (Fin (n + 1))) (data : SharedData n) : SharedData n :=
  match attractionID with
  | none => data
  | some i => data.setAttractionPID i 0

/-- `RestaurantProc::pInitImpl`. -/
def restaurantInit (pid : Pid) (data : SharedData n) : Except InitError (SharedData n) :=
  if !data.isOpen then .error .parkClosed
  else if data.attractionPID restaurantSlot ≠ 0 then .error .restaurantExists
  else .ok (data.setAttractionPID restaurantSlot pid)

/-- `RestaurantProc::pCloseImpl`. -/
def restaurantClose (pid : Pid) (data : SharedData n) : SharedData n :=
  if data.attractionPID restaurantSlot = pid then data.setAttractionPID restaurantSlot 0
  else data

/-- `CashierProc::pInitImpl`. -/
def cashierInit (pid : Pid) (data : SharedData n) : Except InitError (SharedData n) :=
  if !data.isOpen then .error .parkClosed
  else if data.cashierPID ≠ 0 then .error .cashierExists
  else .ok { data with cashierPID := pid }

/-- `CashierProc::pCloseImpl`. -/
def cashierClose (pid : Pid) (data : SharedData n) : SharedData n :=
  if data.cashierPID = pid then { data with cashierPID := 0 } else data

/-! ## What they do -/

@[simp] theorem setAttractionPID_self (data : SharedData n) (i : Fin (n + 1)) (pid : Pid) :
    (data.setAttractionPID i pid).attractionPID i = pid := Function.update_self ..

theorem setAttractionPID_of_ne (data : SharedData n) {i j : Fin (n + 1)} (hj : j ≠ i)
    (pid : Pid) : (data.setAttractionPID i pid).attractionPID j = data.attractionPID j :=
  Function.update_of_ne hj ..

/-- The search finds the lowest free slot. -/
theorem firstFree_eq_some {data : SharedData n} {i : Fin (n + 1)}
    (h : data.firstFree = some i) :
    data.attractionPID i = 0 ∧ ∀ j, data.attractionPID j = 0 → i ≤ j := by
  obtain ⟨hi, front, back, hsplit, hfront⟩ := List.find?_eq_some_iff_append.mp h
  refine ⟨of_decide_eq_true hi, fun j hj => ?_⟩
  have hmem : j ∈ front ++ i :: back := hsplit ▸ List.mem_finRange j
  rw [List.mem_append, List.mem_cons] at hmem
  obtain hmem | rfl | hmem := hmem
  · have := hfront j hmem
    simp [hj] at this
  · exact le_rfl
  · have hsorted := hsplit ▸ List.pairwise_lt_finRange (n + 1)
    have htail := (List.pairwise_append.mp hsorted).2.1
    exact (List.rel_of_pairwise_cons htail hmem).le

theorem firstFree_eq_none {data : SharedData n} (h : data.firstFree = none) (j : Fin (n + 1)) :
    data.attractionPID j ≠ 0 := by
  have := List.find?_eq_none.mp h j (List.mem_finRange j)
  simpa using this

theorem attractionInit_eq_ok {pid : Pid} {data result : SharedData n} {i : Fin (n + 1)} :
    data.attractionInit pid = .ok (result, i) ↔
      data.isOpen = true ∧ data.firstFree = some i ∧ result = data.setAttractionPID i pid := by
  unfold attractionInit
  cases data.isOpen with
  | false => simp
  | true =>
    cases data.firstFree with
    | none => simp
    | some j =>
      simp only [Bool.not_true, Bool.false_eq_true, if_false, Except.ok.injEq, Prod.mk.injEq,
        Option.some.injEq, true_and]
      constructor
      · rintro ⟨rfl, rfl⟩
        exact ⟨rfl, rfl⟩
      · rintro ⟨rfl, rfl⟩
        exact ⟨rfl, rfl⟩

theorem restaurantInit_eq_ok {pid : Pid} {data result : SharedData n} :
    data.restaurantInit pid = .ok result ↔ data.isOpen = true ∧
      data.attractionPID restaurantSlot = 0 ∧
      result = data.setAttractionPID restaurantSlot pid := by
  unfold restaurantInit
  by_cases hopen : data.isOpen = true
  · by_cases hslot : data.attractionPID restaurantSlot = 0
    · simp [hopen, hslot, eq_comm]
    · simp [hopen, hslot]
  · simp [hopen]

theorem cashierInit_eq_ok {pid : Pid} {data result : SharedData n} :
    data.cashierInit pid = .ok result ↔
      data.isOpen = true ∧ data.cashierPID = 0 ∧ result = { data with cashierPID := pid } := by
  unfold cashierInit
  by_cases hopen : data.isOpen = true
  · by_cases hslot : data.cashierPID = 0
    · simp [hopen, hslot, eq_comm]
    · simp [hopen, hslot]
  · simp [hopen]

end SharedData
end AmusementPark.Park
