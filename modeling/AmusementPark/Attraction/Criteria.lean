import AmusementPark.SimulationData

/-! # The admission rules of an attraction

What the limits of an attraction ask of an adult and of an accompanied child,
and `MeetsAttractionCriteria` compared with it. The code tests the child against
its own limit and then against the limit for adults as well, so it turns away
the children between the two.
-/
namespace AmusementPark

/-! ## Optional limits -/

/-- The values a lower limit lets pass. -/
def Reaches (limit : ℤ) (value : ℕ) : Prop := limit ≠ -1 → limit ≤ value

/-- The values an upper limit lets pass. -/
def StaysBelow (limit : ℤ) (value : ℕ) : Prop := limit ≠ -1 → value ≤ limit

theorem reaches_iff (limit : ℤ) (value : ℕ) :
    Reaches limit value ↔ ¬ (limit ≠ -1 ∧ (value : ℤ) < limit) := by
  rw [Reaches]
  omega

theorem staysBelow_iff (limit : ℤ) (value : ℕ) :
    StaysBelow limit value ↔ ¬ (limit ≠ -1 ∧ limit < (value : ℤ)) := by
  rw [StaysBelow]
  omega

namespace AttractionConfig

/-! ## The rules -/

/-- The limit that counts for an accompanied child: its own, or that for adults. -/
def childLimit (cfg : AttractionConfig) : ℤ :=
  if cfg.minChildHeight ≠ -1 then cfg.minChildHeight else cfg.minHeight

def AdultFits (cfg : AttractionConfig) (client : PersonData) : Prop :=
  Reaches cfg.minHeight client.height ∧ StaysBelow cfg.maxHeight client.height

/-- What the attraction rules ask of an adult with or without a child. -/
structure Rules (cfg : AttractionConfig) (client child : PersonData) (hasChild : Bool) : Prop where
  adult : cfg.AdultFits client
  childAge : hasChild = true → Reaches cfg.minAge child.age
  childHeight : hasChild = true → Reaches cfg.childLimit child.height

/-- The child is tall enough to ride accompanied and too short to ride alone. -/
def InBand (cfg : AttractionConfig) (child : PersonData) : Prop :=
  cfg.minChildHeight ≠ -1 ∧ cfg.minHeight ≠ -1 ∧
    cfg.minChildHeight ≤ child.height ∧ (child.height : ℤ) < cfg.minHeight

/-- The heights of a band lie between the two limits. -/
theorem exists_inBand_iff (cfg : AttractionConfig) :
    (∃ child, cfg.InBand child) ↔ cfg.minChildHeight ≠ -1 ∧ cfg.minHeight ≠ -1 ∧
      cfg.minChildHeight < cfg.minHeight ∧ 0 < cfg.minHeight := by
  constructor
  · intro h
    obtain ⟨child, hset, hset', hlow, hhigh⟩ := h
    omega
  · intro h
    refine ⟨⟨0, cfg.minChildHeight.toNat⟩, h.1, h.2.1, ?_, ?_⟩
    all_goals
      dsimp only
      omega

/-- Only A2, A4, A8 and A16 have a band. -/
theorem exists_inBand_attraction {attractionID : ℕ} {cfg : AttractionConfig}
    (h : attractionConfig[attractionID]? = some cfg) :
    (∃ child, cfg.InBand child) ↔ attractionID ∈ [1, 3, 7, 15] := by
  rw [exists_inBand_iff]
  have htable : ∀ i : Fin 17, ∀ e ∈ attractionConfig[i.val]?,
      ((e.minChildHeight ≠ -1 ∧ e.minHeight ≠ -1 ∧ e.minChildHeight < e.minHeight ∧
        0 < e.minHeight) ↔ i.val ∈ [1, 3, 7, 15]) := by decide
  exact htable ⟨attractionID, (List.getElem?_eq_some_iff.mp h).1⟩ cfg h

/-- What the code asks of a child: both limits at once. -/
theorem admits_iff (cfg : AttractionConfig) (client child : PersonData) (hasChild : Bool) :
    cfg.admits client child hasChild = true ↔ cfg.AdultFits client ∧
      (hasChild = true → Reaches cfg.minAge child.age ∧
        Reaches cfg.minChildHeight child.height ∧ Reaches cfg.minHeight child.height) := by
  rw [admits, AdultFits]
  simp only [reaches_iff, staysBelow_iff]
  split_ifs <;> simp_all

/-- The code refuses exactly the children that miss the limit that counts or stand in the band. -/
theorem reaches_both_iff (cfg : AttractionConfig) (child : PersonData) :
    Reaches cfg.minChildHeight child.height ∧ Reaches cfg.minHeight child.height ↔
      Reaches cfg.childLimit child.height ∧ ¬ cfg.InBand child := by
  simp only [childLimit, Reaches, InBand]
  split_ifs <;> omega

/-- An adult with a child of the band, whom the rules let in. -/
def BandRefused (cfg : AttractionConfig) (client child : PersonData) (hasChild : Bool) : Prop :=
  hasChild = true ∧ cfg.InBand child ∧ cfg.AdultFits client ∧ Reaches cfg.minAge child.age

theorem InBand.reaches_childLimit {cfg : AttractionConfig} {child : PersonData}
    (h : cfg.InBand child) : Reaches cfg.childLimit child.height := by
  intro _
  rw [childLimit, if_pos h.1]
  exact h.2.2.1

/-- The code admits whom the rules admit, the band apart. -/
theorem admits_iff_rules (cfg : AttractionConfig) (client child : PersonData) (hasChild : Bool) :
    cfg.admits client child hasChild = true ↔
      cfg.Rules client child hasChild ∧ ¬ cfg.BandRefused client child hasChild := by
  rw [admits_iff]
  constructor
  · intro h
    have hchild := fun hc => (cfg.reaches_both_iff child).mp (h.2 hc).2
    exact ⟨⟨h.1, fun hc => (h.2 hc).1, fun hc => (hchild hc).1⟩,
      fun hband => (hchild hband.1).2 hband.2.1⟩
  · intro h
    apply And.intro h.1.adult
    intro hc
    apply And.intro (h.1.childAge hc)
    apply (cfg.reaches_both_iff child).mpr
    apply And.intro (h.1.childHeight hc)
    intro hband
    exact h.2 ⟨hc, hband, h.1.adult, h.1.childAge hc⟩

/-- A refused child of the band is one the rules let in. -/
theorem BandRefused.rules {cfg : AttractionConfig} {client child : PersonData} {hasChild : Bool}
    (h : cfg.BandRefused client child hasChild) : cfg.Rules client child hasChild :=
  ⟨h.2.2.1, fun _ => h.2.2.2, fun _ => h.2.1.reaches_childLimit⟩

end AttractionConfig

/-! ## The function -/

theorem meetsAttractionCriteria_of_entry {attractionID : ℕ} {cfg : AttractionConfig}
    (h : attractionConfig[attractionID]? = some cfg) (client child : PersonData)
    (hasChild : Bool) : meetsAttractionCriteria attractionID client child hasChild =
      cfg.admits client child hasChild := by
  rw [meetsAttractionCriteria, if_neg (by omega), Int.toNat_natCast, h]

/-- Every set of limits is applied as the rules say if and only if no child of the band is
turned away; without a child it always is. -/
theorem admits_matches_rules_iff (cfg : AttractionConfig) (client child : PersonData)
    (hasChild : Bool) :
    ((cfg.admits client child hasChild = true ↔ cfg.Rules client child hasChild) ↔
      ¬ cfg.BandRefused client child hasChild) ∧
    (cfg.admits client child false = true ↔ cfg.AdultFits client) ∧
    ∀ attractionID : ℕ, attractionConfig[attractionID]? = some cfg →
      ((meetsAttractionCriteria attractionID client child hasChild = true ↔
        cfg.Rules client child hasChild) ↔ ¬ cfg.BandRefused client child hasChild) := by
  have hrules : (cfg.admits client child hasChild = true ↔ cfg.Rules client child hasChild) ↔
      ¬ cfg.BandRefused client child hasChild := by
    rw [cfg.admits_iff_rules]
    constructor
    · intro h hband
      exact (h.mpr hband.rules).2 hband
    · intro h
      exact ⟨And.left, fun hr => ⟨hr, h⟩⟩
  refine ⟨hrules, ?_, ?_⟩
  · rw [AttractionConfig.admits_iff]
    simp
  · intro attractionID hentry
    rw [meetsAttractionCriteria_of_entry hentry]
    exact hrules

/-- The entry of A2 gives the function for A2. -/
theorem admits_matches_rules_a2 :
    (meetsAttractionCriteria 1 ⟨30, 170⟩ ⟨6, 90⟩ true = true ↔
      AttractionConfig.Rules ⟨30, 12, 1, true, 100, 120, -1, -1⟩ ⟨30, 170⟩ ⟨6, 90⟩ true) :=
  ((admits_matches_rules_iff _ _ _ _).2.2 1 rfl).mpr fun h => absurd h.2.1.2.2.1 (by decide)

/-- Attraction A2 turns away a child of 110 cm with its guardian. -/
theorem a2_refuses_accompanied_child : ∃ cfg, attractionConfig[1]? = some cfg ∧
    cfg.Rules ⟨30, 170⟩ ⟨6, 110⟩ true ∧
      meetsAttractionCriteria 1 ⟨30, 170⟩ ⟨6, 110⟩ true = false := by
  refine ⟨_, rfl, ⟨⟨?_, ?_⟩, ?_, ?_⟩, by decide⟩ <;>
    simp [Reaches, StaysBelow, AttractionConfig.childLimit]

end AmusementPark
