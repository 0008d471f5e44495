import AmusementPark.Cashier.Evacuation
import AmusementPark.Restaurant.Evacuation

/-! # Evacuation of the admitted clients

When the park closes, the cashier and the restaurant pass the order on to their
clients. A client that they have let in, but not yet entered where the signal
handler looks, is not told to leave.
-/
namespace AmusementPark

/-- In every run of the cashier and in every run of the restaurant whose steps are undisturbed, the
evacuation signal is passed on to every admitted client. -/
theorem evacuation_reaches_admitted (parkSize : ℕ) (cfg : AttractionConfig)
    {as : List Cashier.AdmissionAction} {bs : List Restaurant.AdmissionAction}
    (has : (Cashier.AdmissionSystem.admittingMachine parkSize).Meets
      Cashier.AdmissionSystem.AdmissionUndisturbed (.init, ∅) as)
    (hbs : (Restaurant.AdmissionSystem.admittingMachine cfg).Meets
      Restaurant.AdmissionSystem.AdmissionUndisturbed (.init, ∅) bs) :
    (Cashier.AdmissionSystem.admittingMachine parkSize).Meets
        Cashier.AdmissionSystem.EvacuationReaches (.init, ∅) as ∧
      (Restaurant.AdmissionSystem.admittingMachine cfg).Meets
        Restaurant.AdmissionSystem.EvacuationReaches (.init, ∅) bs :=
  ⟨Cashier.AdmissionSystem.evacuationReaches_of_undisturbed has,
    Restaurant.AdmissionSystem.evacuationReaches_of_undisturbed hbs⟩

/-- A sitting of 60 seconds for one client. -/
def oneTable : AttractionConfig := ⟨60, 50, 1, true, -1, -1, -1, -1⟩

/-- The cashier lets PID 7 in: two steps before the end it has received the `ACK`. -/
def parkAdmission : List Cashier.AdmissionAction :=
  let entry : RegisterMQMessage := ⟨7, .enterPark, .enterPark ⟨false, false, .h2⟩⟩
  List.replicate 12 (.run ⟨0, .ok (some entry), .faultless 7 0⟩)

/-- A step of the restaurant at the given time, with an entry request of PID 7 from outside. -/
def mealStep (now : ℤ) : Restaurant.AdmissionAction :=
  .run ⟨.ok (some ⟨7, .enterRestaurant, .enterRestaurant ⟨false, false⟩⟩), .faultless 7 now⟩

/-- The restaurant lets PID 7 in: two steps before the end the round holds it. -/
def mealAdmission : List Restaurant.AdmissionAction := List.replicate 14 (mealStep 0)

/-- The sitting ends at time 60 and is dropped. -/
def droppedSitting : List Restaurant.AdmissionAction :=
  mealAdmission ++ List.replicate 2 (mealStep 0) ++ List.replicate 3 (mealStep 60)

theorem admission_then_evacuation :
    ((Cashier.AdmissionSystem.admittingMachine 4).Meets Cashier.AdmissionSystem.EvacuationReaches
        (.init, ∅) (parkAdmission ++ [.sigUsr1]) ∧
      (Restaurant.AdmissionSystem.admittingMachine oneTable).Meets
        Restaurant.AdmissionSystem.EvacuationReaches (.init, ∅) (mealAdmission ++ [.sigInt])) ∧
    (((Cashier.AdmissionSystem.admittingMachine 4).exec (.init, ∅) parkAdmission).map
        fun p => (p.1.proc.pSignalAllClients, p.2)) = some ([7], {7}) ∧
    (((Restaurant.AdmissionSystem.admittingMachine oneTable).exec (.init, ∅) mealAdmission).map
        fun p => (p.1.proc.handleSigint, p.2)) = some ([7], {7}) :=
  ⟨evacuation_reaches_admitted 4 oneTable (by decide) (by decide), by decide, by decide⟩

/-- The signal arrives after the `ACK` and before the entry in `m_clients`, while the round is being
filled, or after it has been dropped. -/
theorem evacuation_misses_admitted :
    ¬ (Cashier.AdmissionSystem.admittingMachine 4).Meets Cashier.AdmissionSystem.EvacuationReaches
        (.init, ∅) (parkAdmission.take 10 ++ [.sigUsr1]) ∧
      ¬ (Restaurant.AdmissionSystem.admittingMachine oneTable).Meets
        Restaurant.AdmissionSystem.EvacuationReaches (.init, ∅)
        (mealAdmission.take 12 ++ [.sigInt]) ∧
      ¬ (Restaurant.AdmissionSystem.admittingMachine oneTable).Meets
        Restaurant.AdmissionSystem.EvacuationReaches (.init, ∅) (droppedSitting ++ [.sigInt]) := by
  refine ⟨by decide, by decide, by decide⟩

end AmusementPark
