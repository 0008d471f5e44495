import AmusementPark.Cashier.CashierProc

/-! # The surcharge for overtime

The price of a bill is the price of the ticket, of the child and of the meal,
and a surcharge proportional to the time `pCalculatePrice` takes for overtime.
That time is what is left of the ticket at the exit, so the client that leaves
early pays the surcharge and the client that leaves late does not.
-/
namespace AmusementPark.Cashier

namespace ClientData

/-- The end of the time the ticket pays for. -/
def limit (data : ClientData) : ℤ := data.entryTime + (ticketConfig data.ticketType).time

/-- The price without any overtime factor. -/
def basePrice (data : ClientData) (usedRestaurant : Bool) : ℚ :=
  (ticketConfig data.ticketType).price * (if data.hasChild then 3 / 2 else 1) +
    if usedRestaurant then 40 + 20 * (data.hasChild.toNat : ℚ) else 0

/-- What one unit of overtime adds to the price. -/
def overtimeRate (data : ClientData) : ℚ :=
  (ticketConfig data.ticketType).price * (if data.hasChild then 3 / 2 else 1) /
    (ticketConfig data.ticketType).time

/-- The price at `now` is the one the ticket rules ask for: no surcharge up to the limit, some
surcharge after it. -/
def FairlyCharged (data : ClientData) (usedRestaurant : Bool) (now : ℤ) : Prop :=
  (now ≤ data.limit →
    CashierProc.pCalculatePrice data now usedRestaurant = data.basePrice usedRestaurant) ∧
  (data.limit < now →
    data.basePrice usedRestaurant < CashierProc.pCalculatePrice data now usedRestaurant)

/-- The overtime rules for a client that may leave at two moments. -/
def OvertimePricing (data : ClientData) (usedRestaurant : Bool) (t1 t2 : ℤ) : Prop :=
  CashierProc.pCalculatePrice data t1 usedRestaurant ≤
      CashierProc.pCalculatePrice data t2 usedRestaurant ∧
    data.FairlyCharged usedRestaurant t1 ∧ data.FairlyCharged usedRestaurant t2

/-- The exit is exactly at the limit, or so late that the conversion to `int` turns the time
past the limit into a positive number. -/
def AtLimitOrWrapped (data : ClientData) (now : ℤ) : Prop :=
  now = data.limit ∨ data.limit < now ∧ 2 ^ 31 < (now - data.limit) % 2 ^ 32

theorem pCalculatePrice_eq (data : ClientData) (now : ℤ) (usedRestaurant : Bool) :
    CashierProc.pCalculatePrice data now usedRestaurant = data.basePrice usedRestaurant +
      data.overtimeRate * (max 0 (CashierProc.toInt (data.limit - now)) : ℤ) := by
  have htime : ((ticketConfig data.ticketType).time : ℚ) ≠ 0 := by
    cases data.ticketType <;> norm_num [ticketConfig]
  simp only [CashierProc.pCalculatePrice, basePrice, overtimeRate, limit]
  generalize CashierProc.toInt _ = overtime
  by_cases hover : 0 < overtime
  · rw [max_eq_right hover.le, if_pos hover]
    cases data.hasChild <;> cases usedRestaurant <;> simp <;> field_simp <;> ring
  · rw [max_eq_left (not_lt.mp hover), if_neg hover]
    cases data.hasChild <;> cases usedRestaurant <;> simp

theorem overtimeRate_vip {data : ClientData} (hvip : data.ticketType = .vip) :
    data.overtimeRate = 0 := by
  simp [overtimeRate, hvip, ticketConfig]

theorem overtimeRate_pos {data : ClientData} (hticket : data.ticketType ≠ .vip) :
    0 < data.overtimeRate := by
  have hfactor : (0 : ℚ) < if data.hasChild then 3 / 2 else 1 := by split <;> norm_num
  unfold overtimeRate
  cases hdata : data.ticketType with
  | vip => exact absurd hdata hticket
  | h2 | h4 | h6 | h24 =>
    simp only [ticketConfig]
    positivity

/-! ## The sign of the time difference -/

theorem toInt_of_within {data : ClientData} {now : ℤ} (hentry : data.entryTime ≤ now)
    (hnow : now ≤ data.limit) : CashierProc.toInt (data.limit - now) = data.limit - now := by
  have htime : (ticketConfig data.ticketType).time ≤ 1440 := by
    cases data.ticketType <;> decide
  have hlimit : data.limit - now ≤ 1440 := by
    unfold limit
    omega
  apply Int.bmod_eq_of_le <;> omega

theorem toInt_neg_pos (d : ℤ) :
    0 < CashierProc.toInt (-d) ↔ 2 ^ 31 < d % 2 ^ 32 := by
  rw [CashierProc.toInt, Int.bmod_def]
  split <;> omega

theorem toInt_neg_of_pos {d : ℤ} (h : 2 ^ 31 < d % 2 ^ 32) :
    CashierProc.toInt (-d) = 2 ^ 32 - d % 2 ^ 32 := by
  rw [CashierProc.toInt, Int.bmod_def]
  split <;> omega

theorem limit_sub (data : ClientData) (now : ℤ) : data.limit - now = -(now - data.limit) :=
  (neg_sub _ _).symm

/-- A ticket with a time limit is charged fairly at the exits at which the reversed sign of the
overtime does not show. -/
theorem fairlyCharged_iff {data : ClientData} (hticket : data.ticketType ≠ .vip)
    (usedRestaurant : Bool) {now : ℤ} (hentry : data.entryTime ≤ now) :
    data.FairlyCharged usedRestaurant now ↔ data.AtLimitOrWrapped now := by
  have hrate := overtimeRate_pos hticket
  simp only [FairlyCharged, pCalculatePrice_eq, add_eq_left, lt_add_iff_pos_right,
    mul_eq_zero, hrate.ne', false_or, mul_pos_iff_of_pos_left hrate, max_eq_left_iff,
    lt_max_iff, lt_self_iff_false, false_or, Int.cast_eq_zero, Int.cast_pos]
  obtain hlt | hle := lt_or_ge data.limit now
  · have hpos := toInt_neg_pos (now - data.limit)
    rw [limit_sub, hpos]
    unfold AtLimitOrWrapped
    constructor
    · rintro ⟨-, hlate⟩
      exact .inr ⟨hlt, hlate hlt⟩
    · rintro (rfl | ⟨-, hlate⟩)
      · exact absurd hlt (lt_irrefl _)
      · exact ⟨fun h => absurd hlt (not_lt.mpr h), fun _ => hlate⟩
  · rw [toInt_of_within hentry hle]
    unfold AtLimitOrWrapped
    constructor
    · rintro ⟨hearly, -⟩
      have := hearly hle
      left
      omega
    · rintro (rfl | ⟨hlt, -⟩)
      · simp
      · exact absurd hlt (not_lt.mpr hle)

/-- A ticket without a time limit, whose price is 0, is charged nothing after its limit either. -/
theorem not_fairlyCharged_vip {data : ClientData} (hvip : data.ticketType = .vip)
    (usedRestaurant : Bool) {now : ℤ} (hentry : data.entryTime ≤ now) :
    ¬ data.FairlyCharged usedRestaurant now := by
  rintro ⟨-, hlate⟩
  have hlimit : data.limit < now := by
    have : data.limit = data.entryTime + -1 := by simp [limit, hvip, ticketConfig]
    omega
  have := hlate hlimit
  rw [pCalculatePrice_eq, overtimeRate_vip hvip, zero_mul, add_zero] at this
  exact lt_irrefl _ this

/-- The overtime rules hold at two exits of one client exactly when its ticket has a time limit
and each exit is at the limit or wrapped, the later one less far from the next wrap. -/
theorem overtimePricing_iff (data : ClientData) (usedRestaurant : Bool) {t1 t2 : ℤ}
    (hentry : data.entryTime ≤ t1) (hle : t1 ≤ t2) :
    data.OvertimePricing usedRestaurant t1 t2 ↔
      data.ticketType ≠ .vip ∧ data.AtLimitOrWrapped t1 ∧ data.AtLimitOrWrapped t2 ∧
        (t1 = data.limit ∨ (t2 - data.limit) % 2 ^ 32 ≤ (t1 - data.limit) % 2 ^ 32) := by
  by_cases hvip : data.ticketType = .vip
  · have hfair := not_fairlyCharged_vip hvip usedRestaurant hentry
    constructor
    · rintro ⟨-, h1, -⟩
      exact absurd h1 hfair
    · rintro ⟨hticket, -⟩
      exact absurd hvip hticket
  have hrate := overtimeRate_pos hvip
  have hmono : CashierProc.pCalculatePrice data t1 usedRestaurant ≤
      CashierProc.pCalculatePrice data t2 usedRestaurant ↔
      max 0 (CashierProc.toInt (data.limit - t1)) ≤
        max 0 (CashierProc.toInt (data.limit - t2)) := by
    rw [pCalculatePrice_eq, pCalculatePrice_eq, add_le_add_iff_left, mul_le_mul_iff_right₀ hrate]
    exact_mod_cast Iff.rfl
  rw [OvertimePricing, fairlyCharged_iff hvip usedRestaurant hentry,
    fairlyCharged_iff hvip usedRestaurant (hentry.trans hle), hmono]
  rw [limit_sub data t1, limit_sub data t2]
  constructor
  · rintro ⟨hprice, h1, h2⟩
    refine ⟨hvip, h1, h2, ?_⟩
    obtain h1 | ⟨h1, hwrap1⟩ := h1
    · exact .inl h1
    · obtain h2 | ⟨-, hwrap2⟩ := h2
      · omega
      · rw [toInt_neg_of_pos hwrap1, toInt_neg_of_pos hwrap2] at hprice
        right
        omega
  · rintro ⟨-, h1, h2, horder⟩
    refine ⟨?_, h1, h2⟩
    obtain rfl | hless := horder
    · simp [CashierProc.toInt]
    · obtain rfl | ⟨h1, hwrap1⟩ := h1
      · simp [CashierProc.toInt]
      · have hwrap2 : 2 ^ 31 < (t2 - data.limit) % 2 ^ 32 :=
          h2.elim (fun h => by omega) And.right
        rw [toInt_neg_of_pos hwrap1, toInt_neg_of_pos hwrap2]
        omega

/-- A ticket for two hours, bought at 1000. -/
def twoHours : ClientData := ⟨false, false, 1000, .h2⟩

/-- Leaving exactly at the limit is charged by the rules. -/
theorem twoHours_atLimit : twoHours.OvertimePricing false 1120 1120 :=
  (overtimePricing_iff twoHours false (by decide) (by decide)).mpr
    ⟨by decide, .inl rfl, .inl rfl, .inl rfl⟩

/-- Leaving after one hour costs half a ticket more, leaving after three hours nothing more. -/
theorem twoHours_reversed : ¬ twoHours.OvertimePricing false 1060 1180 ∧
    CashierProc.pCalculatePrice twoHours 1060 false = 30 ∧
    CashierProc.pCalculatePrice twoHours 1180 false = 20 := by
  have hearly : CashierProc.toInt 60 = 60 := by decide
  have hlate : CashierProc.toInt (-60) = -60 := by decide
  have hpriceEarly : CashierProc.pCalculatePrice twoHours 1060 false = 30 := by
    norm_num [CashierProc.pCalculatePrice, twoHours, ticketConfig, hearly]
  have hpriceLate : CashierProc.pCalculatePrice twoHours 1180 false = 20 := by
    norm_num [CashierProc.pCalculatePrice, twoHours, ticketConfig, hlate]
  refine ⟨?_, hpriceEarly, hpriceLate⟩
  rintro ⟨hmono, -, -⟩
  rw [hpriceEarly, hpriceLate] at hmono
  norm_num at hmono

end ClientData
end AmusementPark.Cashier
