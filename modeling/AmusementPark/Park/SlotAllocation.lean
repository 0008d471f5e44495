import AmusementPark.Library.Machine
import AmusementPark.Park.SharedMemory

/-! # Slots of the attractions and of the restaurant

The manager starts `n` attractions and one restaurant on `n + 1` slots. An
attraction takes the first free slot of the whole array, the restaurant insists
on the last one. While an attraction has not started, the others hold at most
`n - 1` of the first `n` slots, so it never reaches the last.
-/
namespace AmusementPark.Park
open Library

/-- The processes that `MainProc::pInitImpl` starts for `ATTRACTION_COUNT = n + 1`. -/
inductive Worker (n : ℕ) where
  | attraction (k : Fin n)
  | restaurant
deriving DecidableEq

/-- Their process identifiers. -/
structure Staff (n : ℕ) where
  pid : Worker n → Pid
  injective : Function.Injective pid
  ne_zero : ∀ w, pid w ≠ 0

/-- Before its critical section, past it with a slot (whether or not the rest of `Init`
succeeds), refused by it, and past the one of `pCloseImpl`. -/
inductive WorkerPhase (n : ℕ) where
  | fresh
  | initialised (id : Fin (n + 1))
  | failed (e : InitError)
  | closed
deriving DecidableEq

structure SlotSystem (n : ℕ) where
  data : SharedData n
  phase : Worker n → WorkerPhase n

inductive SlotAction (n : ℕ) where
  | init (w : Worker n)
  | close (w : Worker n)
  | closePark

namespace SlotSystem
variable {n : ℕ}

def start (isOpen : Bool) : SlotSystem n := ⟨.created isOpen, fun _ => .fresh⟩

/-- The critical section of a worker's `pInitImpl`. -/
def pInitImpl (staff : Staff n) (data : SharedData n) :
    Worker n → Except InitError (SharedData n × Fin (n + 1))
  | .attraction k => data.attractionInit (staff.pid (.attraction k))
  | .restaurant => (data.restaurantInit (staff.pid .restaurant)).map fun d => (d, restaurantSlot)

/-- The critical section of a worker's `pCloseImpl`. -/
def pCloseImpl (staff : Staff n) (s : SlotSystem n) : Worker n → SharedData n
  | .attraction k => s.data.attractionClose <| match s.phase (.attraction k) with
    | .initialised id => some id
    | _ => none
  | .restaurant => s.data.restaurantClose (staff.pid .restaurant)

def setPhase (s : SlotSystem n) (w : Worker n) (data : SharedData n) (phase : WorkerPhase n) :
    SlotSystem n := ⟨data, Function.update s.phase w phase⟩

def step (staff : Staff n) (s : SlotSystem n) : SlotAction n → Option (SlotSystem n)
  | .init w => if s.phase w = .fresh then
      match pInitImpl staff s.data w with
      | .ok (data, id) => some (s.setPhase w data (.initialised id))
      | .error e => some (s.setPhase w s.data (.failed e))
    else none
  -- also of a process that failed before its critical section
  | .close w => if s.phase w = .closed then none
    else some (s.setPhase w (s.pCloseImpl staff w) .closed)
  | .closePark => some { s with data := { s.data with isOpen := false } }

def machine (staff : Staff n) : Machine (SlotSystem n) (SlotAction n) := ⟨step staff⟩

/-- The slots are those of the live processes, no attraction has the restaurant's, and nobody is
refused a slot. -/
structure Allocated (staff : Staff n) (s : SlotSystem n) : Prop where
  distinct : ∀ k l i, s.phase (.attraction k) = .initialised i →
    s.phase (.attraction l) = .initialised i → k = l
  notRestaurant : ∀ k, s.phase (.attraction k) ≠ .initialised restaurantSlot
  owned : ∀ i, s.data.attractionPID i ≠ 0 →
    ∃! w, s.phase w = .initialised i ∧ staff.pid w = s.data.attractionPID i
  held : ∀ w i, s.phase w = .initialised i → s.data.attractionPID i = staff.pid w
  attractionFits : ∀ k, s.phase (.attraction k) ≠ .failed .attractionsExist
  restaurantFits : s.phase .restaurant ≠ .failed .restaurantExists

/-- The invariant: slots and phases agree, and the restaurant's slot is the restaurant's. -/
structure Balanced (staff : Staff n) (s : SlotSystem n) : Prop where
  held : ∀ w i, s.phase w = .initialised i → s.data.attractionPID i = staff.pid w
  owner : ∀ i, s.data.attractionPID i ≠ 0 → ∃ w, s.phase w = .initialised i
  notRestaurant : ∀ k, s.phase (.attraction k) ≠ .initialised restaurantSlot
  restaurant : ∀ i, s.phase .restaurant = .initialised i → i = restaurantSlot
  attractionFits : ∀ k, s.phase (.attraction k) ≠ .failed .attractionsExist
  restaurantFits : s.phase .restaurant ≠ .failed .restaurantExists

variable {staff : Staff n} {s t : SlotSystem n}

theorem Balanced.allocated (hs : s.Balanced staff) : s.Allocated staff where
  distinct k l i hk hl := by
    have hpid := (hs.held _ i hk).symm.trans (hs.held _ i hl)
    exact Worker.attraction.inj (staff.injective hpid)
  notRestaurant := hs.notRestaurant
  owned i hi := by
    obtain ⟨w, hw⟩ := hs.owner i hi
    refine ⟨w, ⟨hw, (hs.held w i hw).symm⟩, fun v hv => ?_⟩
    apply staff.injective
    rw [hv.2, hs.held w i hw]
  held := hs.held
  attractionFits := hs.attractionFits
  restaurantFits := hs.restaurantFits

theorem balanced_start (isOpen : Bool) : (start isOpen).Balanced staff where
  held _ _ h := by cases h
  owner _ hi := absurd rfl hi
  notRestaurant _ h := by cases h
  restaurant _ h := by cases h
  attractionFits _ h := by cases h
  restaurantFits h := by cases h

/-- The counting argument. If all of the first `n` slots were taken, their owners would be all
`n` attractions, also the one that has not started. -/
theorem Balanced.exists_free (hs : s.Balanced staff) {k : Fin n}
    (hk : s.phase (.attraction k) = .fresh) :
    ∃ j : Fin n, s.data.attractionPID j.castSucc = 0 := by
  by_contra! hfull
  have howner (j : Fin n) : ∃ l, s.phase (.attraction l) = .initialised j.castSucc := by
    obtain ⟨w, hw⟩ := hs.owner j.castSucc (hfull j)
    cases w with
    | attraction l => exact ⟨l, hw⟩
    | restaurant => exact absurd (hs.restaurant _ hw) (Fin.castSucc_lt_last j).ne
  choose owner howner using howner
  have hinjective : Function.Injective owner := by
    intro i j hij
    have hi := howner i
    rw [hij, howner j, WorkerPhase.initialised.injEq] at hi
    exact (Fin.castSucc_injective n hi).symm
  obtain ⟨j, rfl⟩ := Finite.surjective_of_injective hinjective k
  rw [howner j] at hk
  cases hk

/-- So an attraction finds a slot, and not the last one. -/
theorem Balanced.firstFree (hs : s.Balanced staff) {k : Fin n}
    (hk : s.phase (.attraction k) = .fresh) :
    ∃ i, s.data.firstFree = some i ∧ s.data.attractionPID i = 0 ∧ i ≠ restaurantSlot := by
  obtain ⟨j, hj⟩ := hs.exists_free hk
  cases hfree : s.data.firstFree with
  | none => exact absurd hj (SharedData.firstFree_eq_none hfree j.castSucc)
  | some i =>
    obtain ⟨hi, hleast⟩ := SharedData.firstFree_eq_some hfree
    exact ⟨i, rfl, hi, ((hleast _ hj).trans_lt (Fin.castSucc_lt_last j)).ne⟩

/-- The restaurant finds its slot free. -/
theorem Balanced.restaurant_free (hs : s.Balanced staff)
    (hfresh : s.phase .restaurant = .fresh) : s.data.attractionPID restaurantSlot = 0 := by
  by_contra hne
  obtain ⟨w, hw⟩ := hs.owner _ hne
  cases w with
  | attraction k => exact hs.notRestaurant k hw
  | restaurant =>
    rw [hfresh] at hw
    cases hw

/-! ## What a critical section does to the invariant -/

theorem setPhase_of_ne {v w : Worker n} (hv : v ≠ w) (data : SharedData n)
    (phase : WorkerPhase n) : (s.setPhase w data phase).phase v = s.phase v :=
  Function.update_of_ne hv ..

@[simp] theorem setPhase_self (w : Worker n) (data : SharedData n) (phase : WorkerPhase n) :
    (s.setPhase w data phase).phase w = phase := Function.update_self ..

/-- A phase after the step is the worker's new one or an old one of somebody else. -/
theorem setPhase_cases {v w : Worker n} {data : SharedData n} {phase p : WorkerPhase n}
    (h : (s.setPhase w data phase).phase v = p) :
    v = w ∧ phase = p ∨ v ≠ w ∧ s.phase v = p := by
  by_cases hv : v = w
  · rw [hv, setPhase_self] at h
    exact .inl ⟨hv, h⟩
  · rw [setPhase_of_ne hv] at h
    exact .inr ⟨hv, h⟩

/-- The part of the invariant that is about one worker depends on its new phase only. -/
theorem Balanced.setPhase (hs : s.Balanced staff) {w : Worker n} {data : SharedData n}
    {phase : WorkerPhase n}
    (hheld : ∀ v i, (s.setPhase w data phase).phase v = .initialised i →
      data.attractionPID i = staff.pid v)
    (howner : ∀ i, data.attractionPID i ≠ 0 →
      ∃ v, (s.setPhase w data phase).phase v = .initialised i)
    (hattraction : ∀ k, w = .attraction k →
      phase ≠ .initialised restaurantSlot ∧ phase ≠ .failed .attractionsExist)
    (hrestaurant : w = .restaurant →
      (∀ i, phase = .initialised i → i = restaurantSlot) ∧ phase ≠ .failed .restaurantExists) :
    (s.setPhase w data phase).Balanced staff where
  held := hheld
  owner := howner
  notRestaurant k hk := by
    obtain ⟨hw, hnew⟩ | ⟨-, hold⟩ := setPhase_cases hk
    · exact (hattraction k hw.symm).1 hnew
    · exact hs.notRestaurant k hold
  restaurant i hi := by
    obtain ⟨hw, hnew⟩ | ⟨-, hold⟩ := setPhase_cases hi
    · exact (hrestaurant hw.symm).1 i hnew
    · exact hs.restaurant i hold
  attractionFits k hk := by
    obtain ⟨hw, hnew⟩ | ⟨-, hold⟩ := setPhase_cases hk
    · exact (hattraction k hw.symm).2 hnew
    · exact hs.attractionFits k hold
  restaurantFits hk := by
    obtain ⟨hw, hnew⟩ | ⟨-, hold⟩ := setPhase_cases hk
    · exact (hrestaurant hw.symm).2 hnew
    · exact hs.restaurantFits hold

/-- A worker takes a free slot of its kind. -/
theorem Balanced.take (hs : s.Balanced staff) {w : Worker n} (hfresh : s.phase w = .fresh)
    {i : Fin (n + 1)} (hfree : s.data.attractionPID i = 0)
    (hattraction : ∀ k, w = .attraction k → i ≠ restaurantSlot)
    (hrestaurant : w = .restaurant → i = restaurantSlot) :
    (s.setPhase w (s.data.setAttractionPID i (staff.pid w)) (.initialised i)).Balanced staff := by
  have hother (v : Worker n) (j : Fin (n + 1)) (hv : s.phase v = .initialised j) : j ≠ i := by
    rintro rfl
    exact staff.ne_zero v ((hs.held v j hv).symm.trans hfree)
  apply hs.setPhase
  · intro v j hv
    obtain ⟨rfl, hij⟩ | ⟨-, hv⟩ := setPhase_cases hv
    · obtain rfl := WorkerPhase.initialised.inj hij
      exact s.data.setAttractionPID_self i _
    · exact (s.data.setAttractionPID_of_ne (hother v j hv) _).trans (hs.held v j hv)
  · intro j hj
    by_cases hji : j = i
    · exact ⟨w, by rw [setPhase_self, hji]⟩
    · rw [s.data.setAttractionPID_of_ne hji] at hj
      obtain ⟨v, hv⟩ := hs.owner j hj
      refine ⟨v, ?_⟩
      rw [setPhase_of_ne, hv]
      rintro rfl
      rw [hfresh] at hv
      cases hv
  · intro k hk
    exact ⟨by simpa using hattraction k hk, by simp⟩
  · intro hw
    refine ⟨fun j hj => ?_, by simp⟩
    obtain rfl := WorkerPhase.initialised.inj hj
    exact hrestaurant hw

/-- A worker without a slot, or one that gives its slot back, moves on. -/
theorem Balanced.move (hs : s.Balanced staff) {w : Worker n} {phase : WorkerPhase n}
    {data : SharedData n} (hphase : ∀ i, phase ≠ .initialised i)
    (hattraction : ∀ k, w = .attraction k → phase ≠ .failed .attractionsExist)
    (hrestaurant : w = .restaurant → phase ≠ .failed .restaurantExists)
    (hown : ∀ i, s.phase w = .initialised i → data.attractionPID i = 0)
    (hother : ∀ i, s.phase w ≠ .initialised i → data.attractionPID i = s.data.attractionPID i) :
    (s.setPhase w data phase).Balanced staff := by
  apply hs.setPhase
  · intro v j hv
    obtain ⟨-, hj⟩ | ⟨hvw, hv⟩ := setPhase_cases hv
    · exact absurd hj (hphase j)
    · have hheld := hs.held v j hv
      refine (hother j fun hw => ?_).trans hheld
      exact hvw (staff.injective (hheld.symm.trans (hs.held w j hw)))
  · intro j hj
    have hne : s.phase w ≠ .initialised j := fun hw => hj (hown j hw)
    obtain ⟨v, hv⟩ := hs.owner j (hother j hne ▸ hj)
    refine ⟨v, ?_⟩
    rw [setPhase_of_ne, hv]
    rintro rfl
    exact hne hv
  · exact fun k hk => ⟨hphase _, hattraction k hk⟩
  · exact fun hw => ⟨fun i hi => absurd hi (hphase i), hrestaurant hw⟩

/-- Starting: the slot is there, and only a closed park refuses. -/
theorem Balanced.init (hs : s.Balanced staff) {w : Worker n} (hfresh : s.phase w = .fresh)
    (h : step staff s (.init w) = some t) : t.Balanced staff := by
  have hrefused (e : InitError) (he : e = .parkClosed) :
      (s.setPhase w s.data (.failed e)).Balanced staff := by
    subst he
    apply hs.move
    · simp
    · simp
    · simp
    · simp [hfresh]
    · exact fun _ _ => rfl
  simp only [step, hfresh, if_true] at h
  cases w with
  | attraction k =>
    obtain ⟨i, hfirst, hi, hne⟩ := hs.firstFree hfresh
    simp only [pInitImpl, SharedData.attractionInit, hfirst] at h
    cases hopen : s.data.isOpen with
    | false =>
      simp only [hopen, Bool.not_false, if_true, Option.some.injEq] at h
      exact h ▸ hrefused _ rfl
    | true =>
      simp only [hopen, Bool.not_true, Bool.false_eq_true, if_false, Option.some.injEq] at h
      exact h ▸ hs.take hfresh hi (fun _ _ => hne) (fun hw => by cases hw)
  | restaurant =>
    have hfree := hs.restaurant_free hfresh
    simp only [pInitImpl, SharedData.restaurantInit, hfree] at h
    cases hopen : s.data.isOpen with
    | false =>
      simp only [hopen, Bool.not_false, if_true, Except.map, Option.some.injEq] at h
      exact h ▸ hrefused _ rfl
    | true =>
      simp only [hopen, Bool.not_true, Bool.false_eq_true, if_false, ne_eq, not_true_eq_false,
        Except.map, Option.some.injEq] at h
      exact h ▸ hs.take hfresh hfree (fun _ hw => by cases hw) (fun _ => rfl)

/-- Closing: exactly the worker's own slot becomes free. -/
theorem Balanced.close (hs : s.Balanced staff) (w : Worker n) :
    (s.setPhase w (s.pCloseImpl staff w) .closed).Balanced staff := by
  apply hs.move
  · simp
  · simp
  · simp
  · intro i hi
    cases w with
    | attraction k =>
      simp only [pCloseImpl, hi, SharedData.attractionClose]
      exact s.data.setAttractionPID_self i 0
    | restaurant =>
      obtain rfl := hs.restaurant i hi
      simp only [pCloseImpl, SharedData.restaurantClose, hs.held _ _ hi, if_true]
      exact s.data.setAttractionPID_self _ 0
  · intro i hi
    cases w with
    | attraction k =>
      cases hphase : s.phase (.attraction k) with
      | initialised j =>
        simp only [pCloseImpl, hphase, SharedData.attractionClose]
        apply SharedData.setAttractionPID_of_ne
        rintro rfl
        exact hi hphase
      | _ => simp [pCloseImpl, hphase, SharedData.attractionClose]
    | restaurant =>
      simp only [pCloseImpl, SharedData.restaurantClose]
      split
      · next hpid =>
        apply SharedData.setAttractionPID_of_ne
        rintro rfl
        obtain ⟨v, hv⟩ := hs.owner restaurantSlot (hpid ▸ staff.ne_zero _)
        have hvr := staff.injective ((hs.held v _ hv).symm.trans hpid)
        exact hi (hvr ▸ hv)
      · rfl

/-- Only the slots and the phases matter. -/
theorem Balanced.congr (hs : s.Balanced staff) {data : SharedData n}
    (hdata : data.attractionPID = s.data.attractionPID) : Balanced staff ⟨data, s.phase⟩ where
  held w i hw := by
    rw [hdata]
    exact hs.held w i hw
  owner i hi := by
    rw [hdata] at hi
    exact hs.owner i hi
  notRestaurant := hs.notRestaurant
  restaurant := hs.restaurant
  attractionFits := hs.attractionFits
  restaurantFits := hs.restaurantFits

theorem Balanced.step (hs : s.Balanced staff) {a : SlotAction n}
    (h : SlotSystem.step staff s a = some t) : t.Balanced staff := by
  cases a with
  | init w =>
    by_cases hfresh : s.phase w = .fresh
    · exact hs.init hfresh h
    · simp [SlotSystem.step, hfresh] at h
  | close w =>
    simp only [SlotSystem.step, Option.ite_none_left_eq_some, Option.some.injEq] at h
    exact h.2 ▸ hs.close w
  | closePark =>
    obtain rfl := Option.some.inj h
    exact hs.congr rfl

/-- The workers leave the cashier's field alone. -/
theorem step_cashierPID {a : SlotAction n} (h : SlotSystem.step staff s a = some t) :
    t.data.cashierPID = s.data.cashierPID := by
  cases a with
  | init w =>
    simp only [SlotSystem.step, Option.ite_none_right_eq_some] at h
    obtain ⟨-, h⟩ := h
    cases hinit : pInitImpl staff s.data w with
    | error e =>
      simp only [hinit, Option.some.injEq] at h
      exact h ▸ rfl
    | ok result =>
      simp only [hinit, Option.some.injEq] at h
      subst h
      cases w with
      | attraction k =>
        obtain ⟨-, -, hdata⟩ := SharedData.attractionInit_eq_ok.mp hinit
        have hcashier := congrArg SharedData.cashierPID hdata
        exact hcashier
      | restaurant =>
        simp only [pInitImpl, Except.map] at hinit
        cases hrestaurant : s.data.restaurantInit (staff.pid .restaurant) with
        | error e => simp [hrestaurant] at hinit
        | ok data =>
          simp only [hrestaurant, Except.ok.injEq] at hinit
          obtain ⟨-, -, hdata⟩ := SharedData.restaurantInit_eq_ok.mp hrestaurant
          subst hinit
          have hcashier := congrArg SharedData.cashierPID hdata
          exact hcashier
  | close w =>
    simp only [SlotSystem.step, Option.ite_none_left_eq_some, Option.some.injEq] at h
    obtain ⟨-, rfl⟩ := h
    cases w with
    | attraction k =>
      simp only [setPhase, pCloseImpl]
      split <;> rfl
    | restaurant =>
      simp only [setPhase, pCloseImpl, SharedData.restaurantClose]
      split <;> rfl
  | closePark =>
    obtain rfl := Option.some.inj h
    rfl

/-- In every order of starts, failures and ends the slots are allocated as they should be. -/
theorem allocated_always (staff : Staff n) (isOpen : Bool) (as : List (SlotAction n)) :
    (machine staff).Always (Allocated staff) (start isOpen) as :=
  Machine.always_of_invariant (I := Balanced staff) (fun _ h => h.allocated)
    (fun _ _ _ hs h => hs.step h) as (balanced_start isOpen)

end SlotSystem
end AmusementPark.Park
