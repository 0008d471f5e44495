import AmusementPark.Attraction.AttractionProc
import AmusementPark.Library.Blocks

/-! # The leave semaphores of the attractions

`GetFirstHandlerSemaphoreID` sums up the handlers of the attractions before an
index, and the enumeration `MainSemaphoreArray` is laid out from their total.
The function takes 17 for an index of the table, where the table of 17 entries
ends with 16.
-/
namespace AmusementPark
open Library

/-- The handler counts of a table. -/
def handlerCounts (table : List AttractionConfig) : List ℕ :=
  table.map AttractionConfig.handlerCount

theorem handlerCount_eq_sum (table : List AttractionConfig) :
    handlerCount table = (handlerCounts table).sum := by
  rw [handlerCount, handlerCounts, List.sum_eq_foldl_nat, List.foldl_map]

/-- Summing up in `2 ^ 16` places loses only multiples of it. -/
theorem foldl_handlerCount_mod (table : List AttractionConfig) (sum : ℕ) :
    table.foldl (fun sum cfg => sum % 2 ^ 16 + cfg.handlerCount) sum % 2 ^ 16 =
      (sum + (handlerCounts table).sum) % 2 ^ 16 := by
  induction table generalizing sum with
  | nil => rfl
  | cons cfg table ih =>
    rw [List.foldl_cons, ih, handlerCounts, handlerCounts, List.map_cons, List.sum_cons]
    omega

theorem getElem?_handlerCounts {table : List AttractionConfig} {i : ℕ} {cfg : AttractionConfig}
    (h : table[i]? = some cfg) : (handlerCounts table)[i]? = some cfg.handlerCount := by
  rw [handlerCounts, List.getElem?_map, h, Option.map_some]

variable {table : List AttractionConfig}

/-- Where the total fits, an index up to 17 has the start of its block. -/
theorem getFirstHandlerSemaphoreID_of_le
    (hfits : MainSemaphoreArray.attractionHandler1 + handlerCount table < 2 ^ 16) {i : ℕ}
    (hi : i ≤ 17) : getFirstHandlerSemaphoreID table i =
      (MainSemaphoreArray.attractionHandler1 + blockStart (handlerCounts table) i : ℕ) := by
  have hle := blockStart_le_sum (handlerCounts table) i
  rw [← handlerCount_eq_sum] at hle
  have hstart : (handlerCounts (table.take i)).sum = blockStart (handlerCounts table) i := by
    rw [handlerCounts, List.map_take, blockStart, handlerCounts]
  rw [getFirstHandlerSemaphoreID, if_neg (by omega), foldl_handlerCount_mod, zero_add, hstart,
    Nat.mod_eq_of_lt (by omega), Nat.cast_add]

theorem getFirstHandlerSemaphoreID_of_lt {i : ℕ} (hi : 17 < i) :
    getFirstHandlerSemaphoreID table i = -1 := by
  rw [getFirstHandlerSemaphoreID, if_pos hi]

/-! ## The layout -/

/-- The leave semaphores of the handlers of an attraction lie in the array, those of different
attractions differ, and they are all from `AttractionHandler1` to `RestaurantHandler`, the one of
the last attraction. -/
structure HandlerBlocks (table : List AttractionConfig) : Prop where
  inside : ∀ i cfg, table[i]? = some cfg → ∀ j : ℕ, j < cfg.handlerCount →
    0 ≤ getFirstHandlerSemaphoreID table i + j ∧
      getFirstHandlerSemaphoreID table i + j < MainSemaphoreArray.count table
  disjoint : ∀ i i' cfg cfg', table[i]? = some cfg → table[i']? = some cfg' →
    ∀ j j' : ℕ, j < cfg.handlerCount → j' < cfg'.handlerCount →
      getFirstHandlerSemaphoreID table i + j = getFirstHandlerSemaphoreID table i' + j' → i = i'
  cover : ∀ id : ℤ, (∃ i cfg, table[i]? = some cfg ∧ ∃ j : ℕ, j < cfg.handlerCount ∧
      id = getFirstHandlerSemaphoreID table i + j) ↔
    MainSemaphoreArray.attractionHandler1 ≤ id ∧ id ≤ MainSemaphoreArray.restaurantHandler table
  last : getFirstHandlerSemaphoreID table (table.length - 1) =
    MainSemaphoreArray.restaurantHandler table

/-- The layout, and -1 for every index past the table. -/
structure HandlerLayout (table : List AttractionConfig) : Prop extends HandlerBlocks table where
  outside : ∀ i, table.length ≤ i → getFirstHandlerSemaphoreID table i = -1

/-- A table whose last entry, the restaurant, has one handler, and whose ids fit in 16 bits. -/
structure ValidTable (table : List AttractionConfig) : Prop where
  last : table.getLast?.map AttractionConfig.handlerCount = some 1
  fits : MainSemaphoreArray.attractionHandler1 + handlerCount table < 2 ^ 16

theorem ValidTable.length_pos (h : ValidTable table) : 0 < table.length := by
  have hlast := h.last
  cases table with
  | nil => cases hlast
  | cons cfg table => exact Nat.succ_pos _

/-- The start of the last block is one place before the end. -/
theorem ValidTable.blockStart_last (h : ValidTable table) :
    blockStart (handlerCounts table) (table.length - 1) + 1 = handlerCount table := by
  have hpos := h.length_pos
  have hlast := h.last
  rw [List.getLast?_eq_getElem?, ← List.getElem?_map] at hlast
  have hsucc := blockStart_succ hlast
  rw [Nat.sub_add_cancel hpos, blockStart_of_length_le (by simp)] at hsucc
  rw [handlerCount_eq_sum, handlerCounts, hsucc]

/-- The id of a handler is a place of its block. -/
theorem getFirstHandlerSemaphoreID_add (h : ValidTable table) (hlength : table.length ≤ 18)
    {i j : ℕ} {cfg : AttractionConfig} (hcfg : table[i]? = some cfg) (hj : j < cfg.handlerCount) :
    ∃ p ∈ block (handlerCounts table) i,
      getFirstHandlerSemaphoreID table i + j = (MainSemaphoreArray.attractionHandler1 + p : ℕ) := by
  obtain ⟨hi, -⟩ := List.getElem?_eq_some_iff.mp hcfg
  refine ⟨blockStart (handlerCounts table) i + j,
    (mem_block_iff (getElem?_handlerCounts hcfg)).mpr ⟨j, hj, rfl⟩, ?_⟩
  rw [getFirstHandlerSemaphoreID_of_le h.fits (by omega)]
  push_cast
  omega

/-- Up to 18 entries every index of the table has its block. -/
theorem handlerBlocks_of_length_le (h : ValidTable table) (hlength : table.length ≤ 18) :
    HandlerBlocks table := by
  have hlast := h.blockStart_last
  have hbelow {i p : ℕ} (hp : p ∈ block (handlerCounts table) i) : p < handlerCount table := by
    rw [handlerCount_eq_sum]
    exact exists_mem_block_iff.mp ⟨i, hp⟩
  constructor
  · intro i cfg hcfg j hj
    obtain ⟨p, hp, hid⟩ := getFirstHandlerSemaphoreID_add h hlength hcfg hj
    have := hbelow hp
    rw [hid, MainSemaphoreArray.count, MainSemaphoreArray.restaurantHandler]
    omega
  · intro i i' cfg cfg' hcfg hcfg' j j' hj hj' heq
    obtain ⟨p, hp, hid⟩ := getFirstHandlerSemaphoreID_add h hlength hcfg hj
    obtain ⟨p', hp', hid'⟩ := getFirstHandlerSemaphoreID_add h hlength hcfg' hj'
    rw [hid, hid'] at heq
    obtain rfl : p = p' := by omega
    exact eq_of_mem_block hp hp'
  · intro id
    rw [MainSemaphoreArray.restaurantHandler]
    constructor
    · rintro ⟨i, cfg, hcfg, j, hj, rfl⟩
      obtain ⟨p, hp, hid⟩ := getFirstHandlerSemaphoreID_add h hlength hcfg hj
      have := hbelow hp
      rw [hid]
      omega
    · intro hid
      have hp : (id - MainSemaphoreArray.attractionHandler1).toNat < (handlerCounts table).sum := by
        rw [← handlerCount_eq_sum]
        omega
      obtain ⟨i, hi⟩ := exists_mem_block_iff.mpr hp
      cases hcfg : table[i]? with
      | none =>
        rw [block_of_none (by rw [handlerCounts, List.getElem?_map, hcfg, Option.map_none])] at hi
        cases hi
      | some cfg =>
        obtain ⟨j, hj, hplace⟩ := (mem_block_iff (getElem?_handlerCounts hcfg)).mp hi
        refine ⟨i, cfg, hcfg, j, hj, ?_⟩
        obtain ⟨hlt, -⟩ := List.getElem?_eq_some_iff.mp hcfg
        rw [getFirstHandlerSemaphoreID_of_le h.fits (by omega)]
        omega
  · rw [getFirstHandlerSemaphoreID_of_le h.fits (by omega), MainSemaphoreArray.restaurantHandler]
    omega

/-- The layout needs an index 17, and none after it. -/
theorem handlerLayout_iff_length (h : ValidTable table) :
    HandlerLayout table ↔ table.length = 18 := by
  constructor
  · intro hlayout
    have hlast := hlayout.last
    have houtside := hlayout.outside table.length le_rfl
    rw [MainSemaphoreArray.restaurantHandler] at hlast
    have hle : table.length - 1 ≤ 17 := by
      by_contra hlt
      rw [getFirstHandlerSemaphoreID_of_lt (by omega)] at hlast
      omega
    have hgt : 17 < table.length := by
      by_contra hle
      rw [getFirstHandlerSemaphoreID_of_le h.fits (by omega)] at houtside
      omega
    omega
  · intro hlength
    refine ⟨handlerBlocks_of_length_le h hlength.le, ?_⟩
    intro i hi
    exact getFirstHandlerSemaphoreID_of_lt (by omega)

/-- An index of the table has the start of its block, every other one -1. -/
def IndexMapped (table : List AttractionConfig) (i : ℕ) : Prop :=
  getFirstHandlerSemaphoreID table i = if i < table.length then
    ((MainSemaphoreArray.attractionHandler1 + blockStart (handlerCounts table) i : ℕ) : ℤ) else -1

/-- The bound of the function has to tell whether the index is one of the table. -/
theorem indexMapped_iff (h : ValidTable table) (i : ℕ) :
    IndexMapped table i ↔ (i < table.length ↔ i ≤ 17) := by
  unfold IndexMapped
  by_cases hi : i ≤ 17
  · rw [getFirstHandlerSemaphoreID_of_le h.fits hi]
    split <;> omega
  · rw [getFirstHandlerSemaphoreID_of_lt (by omega)]
    split <;> omega

/-- The layout holds of a table if and only if the table has 18 entries; an index is mapped as the
layout asks if and only if it is in the table exactly when it is 17 at most. -/
theorem handlerLayout_iff (h : ValidTable table) : (HandlerLayout table ↔ table.length = 18) ∧
    ∀ i, IndexMapped table i ↔ (i < table.length ↔ i ≤ 17) :=
  ⟨handlerLayout_iff_length h, indexMapped_iff h⟩

/-- A table of 18 entries: A1 twice, and the others. -/
def tableOf18 : List AttractionConfig := ⟨30, 20, 1, true, 120, -1, -1, -1⟩ :: attractionConfig

theorem handlerLayout_tableOf18 : HandlerLayout tableOf18 ∧ IndexMapped tableOf18 18 :=
  have h := handlerLayout_iff (show ValidTable tableOf18 from ⟨by decide, by decide⟩)
  ⟨h.1.mpr (by decide), (h.2 18).mpr (by decide)⟩

/-- Index 17 is past the table of the park, and has the id past the end of the array. -/
theorem getFirstHandlerSemaphoreID_past_table : attractionConfig.length = 17 ∧
    getFirstHandlerSemaphoreID attractionConfig 17 = MainSemaphoreArray.count attractionConfig ∧
    ¬ HandlerLayout attractionConfig := by
  refine ⟨by decide, by decide, ?_⟩
  intro hlayout
  cases hlayout.outside 17 (by decide)

/-! ## The handlers of the park -/

theorem validTable_attractionConfig : ValidTable attractionConfig := ⟨by decide, by decide⟩

/-- The keys of `m_attractionHandlers` are the ids of the block. -/
theorem Attraction.AttractionProc.mem_init_ids {i id : ℕ} {cfg : AttractionConfig}
    (hcfg : attractionConfig[i]? = some cfg) :
    id ∈ (init i cfg).handlers.map Prod.fst ↔
      ∃ j : ℕ, j < cfg.handlerCount ∧
        (id : ℤ) = getFirstHandlerSemaphoreID attractionConfig i + j := by
  have hblocks := handlerBlocks_of_length_le validTable_attractionConfig (by decide)
  have hinside := hblocks.inside i cfg hcfg
  have hcount : MainSemaphoreArray.count attractionConfig < 2 ^ 16 := by decide
  simp only [init, List.map_map, List.mem_map, List.mem_range, Function.comp_apply]
  constructor
  · rintro ⟨j, hj, rfl⟩
    have := hinside j hj
    exact ⟨j, hj, by omega⟩
  · rintro ⟨j, hj, hid⟩
    have := hinside j hj
    exact ⟨j, hj, by omega⟩

/-- No two attractions have a leave semaphore in common. -/
theorem Attraction.AttractionProc.disjoint_init_ids {i i' : ℕ} {cfg cfg' : AttractionConfig}
    (hcfg : attractionConfig[i]? = some cfg) (hcfg' : attractionConfig[i']? = some cfg')
    (hne : i ≠ i') : ((init i cfg).handlers.map Prod.fst).Disjoint
      ((init i' cfg').handlers.map Prod.fst) := by
  intro id hid hid'
  obtain ⟨j, hj, hplace⟩ := (mem_init_ids hcfg).mp hid
  obtain ⟨j', hj', hplace'⟩ := (mem_init_ids hcfg').mp hid'
  have hblocks := handlerBlocks_of_length_le validTable_attractionConfig (by decide)
  exact hne (hblocks.disjoint i i' cfg cfg' hcfg hcfg' j j' hj hj' (hplace.symm.trans hplace'))

end AmusementPark
