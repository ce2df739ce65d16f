/-
# JsonRules.Proofs.Shortest -- the digits of a double read back

What a decimal reads as depends on nothing but its value (`toFloat_congr`), so zeros may move
between significand and exponent.  Whatever the search takes reads back by the test it has passed,
and the grid of seventeen digits always holds such a decimal: the nearer neighbour is off by half a
step at most, and `Double.nearest_eq_abs` forgives as much.
-/
import JsonRules.Decimal.Shortest
import JsonRules.Proofs.Nearest

namespace JsonRules.Decimal

set_option autoImplicit false

/-- The number that a decimal stands for. -/
def value (d : Decimal) : ℚ := d.significand * 10 ^ d.exponent

/-- The power of ten above a number. -/
structure IsPoint (point : ℤ) (q : ℚ) : Prop where
  least : (10 : ℚ) ^ (point - 1) ≤ q
  most : q < (10 : ℚ) ^ point

theorem IsPoint.le_of_le {point point' : ℤ} {q q' : ℚ} (h : IsPoint point q)
    (h' : IsPoint point' q') (le : q ≤ q') : point ≤ point' := by
  have : (10 : ℚ) ^ (point - 1) < 10 ^ point' := (h.least.trans le).trans_lt h'.most
  have := (zpow_lt_zpow_iff_right₀ (by norm_num)).mp this
  omega

theorem toDigits_bounds {n : Nat} (positive : 0 < n) :
    (10 : ℚ) ^ ((Nat.toDigits 10 n).length - 1 : ℤ) ≤ n ∧
      (n + 1 : ℚ) ≤ 10 ^ ((Nat.toDigits 10 n).length : ℤ) := by
  have some : 0 < (Nat.toDigits 10 n).length := Nat.length_toDigits_pos
  constructor
  · obtain ⟨before, same⟩ := Nat.exists_eq_add_one_of_ne_zero (Nat.ne_of_gt some)
    have least : ¬ n < 10 ^ before := by
      obtain rfl | more := Nat.eq_zero_or_pos before
      · omega
      · rw [← Nat.length_toDigits_le_iff (by decide) more]
        omega
    rw [same, Nat.cast_succ, add_sub_cancel_right, zpow_natCast]
    exact_mod_cast Nat.le_of_not_lt least
  · rw [zpow_natCast]
    exact_mod_cast (Nat.length_toDigits_le_iff (by decide) some).mp le_rfl

/-- A number is below the power of ten that its whole part has as digits. -/
theorem isPoint_of_floor {n : Nat} {q : ℚ} (positive : 0 < n) (least : n ≤ q) (most : q < n + 1) :
    IsPoint (Nat.toDigits 10 n).length q :=
  ⟨(toDigits_bounds positive).1.trans least, most.trans_le (toDigits_bounds positive).2⟩

theorem IsPoint.scale {point : ℤ} {q : ℚ} (h : IsPoint point q) (power : ℤ) :
    IsPoint (point + power) (q * 10 ^ power) := by
  have positive : (0 : ℚ) < 10 ^ power := by positivity
  constructor
  · rw [add_sub_right_comm, zpow_add₀ (by norm_num)]
    exact mul_le_mul_of_nonneg_right h.least positive.le
  · rw [zpow_add₀ (by norm_num)]
    exact mul_lt_mul_of_pos_right h.most positive

theorem isPoint_value {d : Decimal} (positive : 0 < d.significand) : IsPoint d.point d.value :=
  (isPoint_of_floor positive le_rfl (lt_add_one _)).scale d.exponent

/-! ## Ratios -/

namespace Ratio

def value (r : Ratio) : ℚ := r.num / r.den

theorem value_scale (r : Ratio) (power : ℤ) : (r.scale power).value = r.value * 10 ^ power := by
  unfold scale
  split
  · obtain ⟨n, rfl⟩ := Int.eq_ofNat_of_zero_le ‹0 ≤ power›
    simp only [value, Int.toNat_natCast, zpow_natCast]
    push_cast
    ring
  · obtain ⟨n, same⟩ := Int.eq_ofNat_of_zero_le (show 0 ≤ -power by omega)
    obtain rfl : power = -n := by omega
    simp only [value, neg_neg, Int.toNat_natCast, zpow_neg, zpow_natCast]
    push_cast
    field_simp

theorem den_scale_pos {r : Ratio} (positive : 0 < r.den) (power : ℤ) : 0 < (r.scale power).den := by
  unfold scale
  split
  · exact positive
  · exact Nat.mul_pos positive (Nat.pow_pos (by decide))

theorem value_ofExact (v : Double.Exact) : (ofExact v).value = v.magnitude := by
  unfold ofExact
  split
  · obtain ⟨n, same⟩ := Int.eq_ofNat_of_zero_le ‹0 ≤ v.exponent›
    simp only [value, Double.Exact.magnitude, same, Int.toNat_natCast, zpow_natCast]
    push_cast
    ring
  · obtain ⟨n, same⟩ := Int.eq_ofNat_of_zero_le (show 0 ≤ -v.exponent by omega)
    have exponent : v.exponent = -n := by omega
    simp only [value, Double.Exact.magnitude, exponent, neg_neg, Int.toNat_natCast, zpow_neg,
      zpow_natCast]
    push_cast
    field_simp

theorem num_ofExact_pos {v : Double.Exact} (nonzero : 0 < v.mantissa) : 0 < (ofExact v).num := by
  unfold ofExact
  split
  · exact Nat.mul_pos nonzero (Nat.two_pow_pos _)
  · exact nonzero

theorem den_ofExact_pos (v : Double.Exact) : 0 < (ofExact v).den := by
  unfold ofExact
  split
  · exact Nat.one_pos
  · exact Nat.two_pow_pos _

theorem isPoint_value {r : Ratio} (numerator : 0 < r.num) (denominator : 0 < r.den) :
    IsPoint r.point r.value := by
  unfold point value
  split
  · apply isPoint_of_floor (Nat.div_pos ‹_› denominator) Nat.cast_div_le
    rw [div_lt_iff₀ (by positivity)]
    exact_mod_cast Nat.lt_mul_of_div_lt (Nat.lt_succ_self _) denominator
  · -- The inverse of the ratio is above a whole number, and not above the next one.
    obtain ⟨n, same⟩ : ∃ n, (r.den + r.num - 1) / r.num = n + 1 :=
      Nat.exists_eq_add_one_of_ne_zero (Nat.ne_of_gt (Nat.div_pos (by omega) numerator))
    have above : n * r.num < r.den := by
      have := Nat.mul_le_of_le_div _ _ _ same.ge
      rw [Nat.add_mul] at this
      omega
    have below : r.den ≤ (n + 1) * r.num := by
      have := (Nat.div_lt_iff_lt_mul numerator).mp (same.trans_lt (Nat.lt_succ_self _))
      rw [Nat.succ_mul] at this
      omega
    have positive : 0 < n := by
      by_contra none
      obtain rfl : n = 0 := by omega
      omega
    obtain ⟨least, most⟩ := toDigits_bounds positive
    have numerator' : (0 : ℚ) < r.num := by exact_mod_cast numerator
    rw [same, Nat.add_sub_cancel]
    constructor
    · rw [sub_right_comm, sub_self, zero_sub, zpow_neg, le_div_iff₀ (by positivity),
        inv_mul_le_iff₀ (by positivity)]
      calc (r.den : ℚ) ≤ (n + 1) * r.num := by exact_mod_cast below
        _ ≤ _ := mul_le_mul_of_nonneg_right most numerator'.le
    · rw [← neg_sub, zpow_neg, div_lt_iff₀ (by positivity), lt_inv_mul_iff₀ (by positivity)]
      calc _ ≤ (n : ℚ) * r.num := mul_le_mul_of_nonneg_right least numerator'.le
        _ < r.den := by exact_mod_cast above

end Ratio

/-! ## The double that a decimal reads as -/

theorem value_eq_zero_iff {d : Decimal} : d.value = 0 ↔ d.significand = 0 := by
  simp [value, zpow_ne_zero]

/-- A decimal of a size that doubles have reads as the double nearest to it. -/
theorem toFloat_eq_nearest {d : Decimal} (positive : 0 < d.significand) (least : -330 ≤ d.point)
    (most : d.point ≤ 330) :
    ∃ num den : Nat, 0 < den ∧ (num / den : ℚ) = d.value ∧ d.toFloat = Double.nearest num den := by
  have ratio := (Ratio.mk d.significand 1).value_scale d.exponent
  refine ⟨_, _, Ratio.den_scale_pos Nat.one_pos d.exponent, ratio.trans ?_, ?_⟩
  · simp [Ratio.value, value]
  · simp only [toFloat, Ratio.scale]
    rw [if_neg (by simp; omega), if_neg (by omega)]
    split <;> simp

/-- A decimal that is too small for a double reads as zero. -/
theorem toBits_toFloat_small {d : Decimal} (small : d.significand = 0 ∨ d.point < -330) :
    d.toFloat.toBits.toNat = 0 := by
  unfold toFloat
  rw [if_pos (by simpa using small)]
  decide +kernel

/-- A decimal that is too large for a double reads as infinity. -/
theorem toBits_toFloat_large {d : Decimal} (positive : 0 < d.significand) (large : 330 < d.point) :
    d.toFloat.toBits.toNat = 2047 * 2 ^ 52 := by
  unfold toFloat
  rw [if_neg (by simp; omega), if_pos large]
  decide +kernel

/-- Decimals of one value read as one double. -/
theorem toFloat_congr {d d' : Decimal} (same : d.value = d'.value) : d.toFloat = d'.toFloat := by
  rw [← Float.toBits_inj, ← UInt64.toNat_inj]
  have zero : d.significand = 0 ↔ d'.significand = 0 := by
    rw [← value_eq_zero_iff, same, value_eq_zero_iff]
  obtain none | positive := Nat.eq_zero_or_pos d.significand
  · rw [toBits_toFloat_small (.inl none), toBits_toFloat_small (.inl (zero.mp none))]
  · have positive' : 0 < d'.significand := by omega
    have point : d.point = d'.point := by
      have h := isPoint_value positive
      have h' := isPoint_value positive'
      exact le_antisymm (h.le_of_le h' same.le) (h'.le_of_le h same.ge)
    by_cases small : d.point < -330
    · rw [toBits_toFloat_small (.inr small), toBits_toFloat_small (.inr (point ▸ small))]
    by_cases large : 330 < d.point
    · rw [toBits_toFloat_large positive large, toBits_toFloat_large positive' (point ▸ large)]
    obtain ⟨num, den, denominator, ratio, reads⟩ :=
      toFloat_eq_nearest positive (by omega) (by omega)
    obtain ⟨num', den', denominator', ratio', reads'⟩ :=
      toFloat_eq_nearest positive' (by omega) (by omega)
    rw [reads, reads', Double.nearest_congr denominator denominator' (by rw [ratio, ratio', same])]

section Double

variable {x : Float} {v : Double.Exact} (opened : Double.Exact.ofFloat? x = some v)
  (nonzero : 0 < v.mantissa)

include opened nonzero

/-- A decimal whose distance from a double is at most half a unit of the seventeenth digit reads as
this double. -/
theorem toFloat_of_close {d : Decimal}
    (close : 2 * 10 ^ 16 * |d.value - v.magnitude| ≤ v.magnitude) : d.toFloat = x.abs := by
  have magnitude := Double.Exact.magnitude_pos nonzero
  have bounds := Double.magnitude_bounds opened nonzero
  have near := abs_le.mp ((le_div_iff₀' (by norm_num)).mpr close)
  have half : v.magnitude / 10 ≤ d.value := by linarith
  have double : d.value ≤ v.magnitude * 10 := by linarith
  have positive : 0 < d.significand := by
    rw [Nat.pos_iff_ne_zero, ne_eq, ← value_eq_zero_iff]
    linarith
  have point := isPoint_value positive
  have least : -330 ≤ d.point := by
    have : (10 : ℚ) ^ (-325 : ℤ) < 10 ^ d.point :=
      calc (10 : ℚ) ^ (-325 : ℤ) = 10 ^ (-324 : ℤ) / 10 := by
            rw [div_eq_mul_inv, ← zpow_sub_one₀ (by norm_num)]
            rfl
        _ ≤ v.magnitude / 10 := by gcongr; exact bounds.1
        _ < 10 ^ d.point := half.trans_lt point.most
    have := (zpow_lt_zpow_iff_right₀ (by norm_num)).mp this
    omega
  have most : d.point ≤ 330 := by
    have : (10 : ℚ) ^ (d.point - 1) < 10 ^ (313 : ℤ) :=
      calc (10 : ℚ) ^ (d.point - 1) ≤ v.magnitude * 10 := point.least.trans double
        _ < 10 ^ (312 : ℤ) * 10 := by gcongr; exact bounds.2
        _ = 10 ^ (313 : ℤ) := by
            rw [← zpow_add_one₀ (by norm_num)]
            rfl
    have := (zpow_lt_zpow_iff_right₀ (by norm_num)).mp this
    omega
  obtain ⟨num, den, denominator, ratio, reads⟩ := toFloat_eq_nearest positive least most
  rw [reads]
  exact Double.nearest_eq_abs opened nonzero denominator (by rwa [ratio])

/-- A decimal that reads as a double that is not zero has the size of a double. -/
theorem point_of_reads {d : Decimal} (reads : d.toFloat = x.abs) :
    0 < d.significand ∧ -330 ≤ d.point ∧ d.point ≤ 330 := by
  have bits := Double.abs_toBits_bounds opened nonzero
  rw [← reads] at bits
  have notSmall : ¬ (d.significand = 0 ∨ d.point < -330) := by
    intro small
    rw [toBits_toFloat_small small] at bits
    omega
  have notLarge : ¬ 330 < d.point := by
    intro large
    rw [toBits_toFloat_large (by omega) large] at bits
    omega
  omega

end Double

/-! ## The search -/

variable {tie : Tie} {x : Float}

/-- What the search takes reads as the double that is looked for. -/
theorem toFloat_of_neighbour? {ratio : Ratio} {point : ℤ} {digits : Nat} {d : Decimal}
    (found : neighbour? tie x ratio point digits = some d) : d.toFloat = x := by
  unfold neighbour? at found
  dsimp only at found
  split at found
  case h_1 low high =>
    cases found
    repeat' split
    all_goals first | exact of_decide_eq_true low | exact of_decide_eq_true high
  case h_2 low high =>
    cases found
    exact of_decide_eq_true low
  case h_3 low high =>
    cases found
    exact of_decide_eq_true high
  case h_4 low high => cases found

theorem value_stripZeros (fuel : Nat) (d : Decimal) : (d.stripZeros fuel).value = d.value := by
  induction fuel generalizing d with
  | zero => rfl
  | succ fuel ih =>
      unfold stripZeros
      split
      · obtain ⟨tenth, same⟩ := Nat.dvd_of_mod_eq_zero ‹d.significand % 10 = 0›
        rw [ih, value, value, same, Nat.mul_div_cancel_left _ (by decide),
          zpow_add_one₀ (by norm_num)]
        push_cast
        ring
      · rfl

theorem Ratio.floor_le_value (r : Ratio) : ((r.num / r.den : ℕ) : ℚ) ≤ r.value := Nat.cast_div_le

theorem Ratio.value_lt_floor_add_one {r : Ratio} (denominator : 0 < r.den) :
    r.value < (r.num / r.den : ℕ) + 1 := by
  rw [value, div_lt_iff₀ (by positivity)]
  exact_mod_cast Nat.lt_mul_of_div_lt (Nat.lt_succ_self _) denominator

section Double

variable {v : Double.Exact} (opened : Double.Exact.ofFloat? x = some v) (nonzero : 0 < v.mantissa)

include opened nonzero

/-- On the grid of seventeen digits a neighbour that is nearer than half a step reads back. -/
theorem toFloat_of_half_step {point : ℤ} {n : Nat} (size : IsPoint point v.magnitude)
    (half : |n - v.magnitude * 10 ^ (17 - point)| ≤ 1 / 2) :
    (Decimal.mk n (point - 17)).toFloat = x.abs := by
  apply toFloat_of_close opened nonzero
  have step : (0 : ℚ) < 10 ^ (point - 17) := by positivity
  have inverse : (10 : ℚ) ^ (17 - point) * 10 ^ (point - 17) = 1 := by
    rw [← zpow_add₀ (by norm_num), sub_add_sub_cancel, sub_self, zpow_zero]
  have first : (10 : ℚ) ^ (point - 1) = 10 ^ 16 * 10 ^ (point - 17) := by
    rw [← zpow_natCast, ← zpow_add₀ (by norm_num)]
    congr 1
    omega
  have distance : n * (10 : ℚ) ^ (point - 17) - v.magnitude
      = (n - v.magnitude * 10 ^ (17 - point)) * 10 ^ (point - 17) := by
    rw [sub_mul, mul_assoc, inverse, mul_one]
  calc 2 * 10 ^ 16 * |n * (10 : ℚ) ^ (point - 17) - v.magnitude|
      = 2 * 10 ^ 16 * (|n - v.magnitude * 10 ^ (17 - point)| * 10 ^ (point - 17)) := by
        rw [distance, abs_mul, abs_of_pos step]
    _ ≤ 2 * 10 ^ 16 * (1 / 2 * 10 ^ (point - 17)) := by gcongr
    _ = 10 ^ (point - 1) := by rw [first]; ring
    _ ≤ v.magnitude := size.least

theorem neighbour?_seventeen :
    neighbour? tie x.abs (.ofExact v) (Ratio.ofExact v).point 17 ≠ none := by
  have size := Ratio.isPoint_value (Ratio.num_ofExact_pos nonzero) (Ratio.den_ofExact_pos v)
  rw [Ratio.value_ofExact] at size
  have scaled := (Ratio.ofExact v).value_scale (-((Ratio.ofExact v).point - 17))
  have denominator := Ratio.den_scale_pos (Ratio.den_ofExact_pos v)
    (-((Ratio.ofExact v).point - 17))
  rw [Ratio.value_ofExact, neg_sub] at scaled
  rw [neg_sub] at denominator
  have least := Ratio.floor_le_value ((Ratio.ofExact v).scale (17 - (Ratio.ofExact v).point))
  have most := Ratio.value_lt_floor_add_one denominator
  rw [scaled] at least most
  intro none
  simp only [neighbour?, Nat.cast_ofNat, neg_sub] at none
  generalize (Ratio.ofExact v).scale (17 - (Ratio.ofExact v).point) = grid at least most none
  split at none
  case h_1 | h_2 | h_3 => cases none
  case h_4 low high =>
    have low := of_decide_eq_false low
    have high := of_decide_eq_false high
    by_cases half :
        v.magnitude * 10 ^ (17 - (Ratio.ofExact v).point) - (grid.num / grid.den : ℕ) ≤ 1 / 2
    · apply low
      apply toFloat_of_half_step opened nonzero size
      rw [abs_le]
      constructor <;> linarith
    · apply high
      apply toFloat_of_half_step opened nonzero size
      rw [abs_le]
      push_cast
      constructor <;> linarith

theorem toFloat_shortest_of_nonzero : (shortest tie x).toFloat = x.abs := by
  unfold shortest
  rw [opened]
  dsimp only
  rw [if_neg (Nat.ne_of_gt nonzero)]
  split
  case h_1 none =>
    rw [List.findSome?_eq_none_iff] at none
    exact absurd (none 17 (by decide)) (neighbour?_seventeen opened nonzero)
  case h_2 d found =>
    obtain ⟨digits, -, found⟩ := List.exists_of_findSome?_eq_some found
    rw [toFloat_congr (value_stripZeros 17 d)]
    exact toFloat_of_neighbour? found

end Double

/-- A decimal that reads as the magnitude of a double is of a size that doubles have. -/
structure Reads (d : Decimal) (x : Float) : Prop where
  reads : d.toFloat = x.abs
  zero : d.significand = 0 → d.exponent = 0
  least : -330 ≤ d.point
  most : d.point ≤ 330

/-- The digits of a finite double read back. -/
theorem reads_shortest (tie : Tie) (finite : x.isFinite = true) : Reads (shortest tie x) x := by
  obtain ⟨v, opened⟩ := Double.exists_exact finite
  obtain zero | nonzero := Nat.eq_zero_or_pos v.mantissa
  · have digits : shortest tie x = ⟨0, 0⟩ := by simp only [shortest, opened, zero, if_true]
    have reads : (Decimal.mk 0 0).toFloat = x.abs := by
      rw [← Float.toBits_inj, ← UInt64.toNat_inj, toBits_toFloat_small (.inl rfl),
        Double.toBits_abs_zero opened zero]
    rw [digits]
    exact ⟨reads, fun _ => rfl, by decide, by decide⟩
  · have reads : (shortest tie x).toFloat = x.abs := toFloat_shortest_of_nonzero opened nonzero
    obtain ⟨positive, least, most⟩ := point_of_reads opened nonzero reads
    exact ⟨reads, fun none => absurd none (Nat.ne_of_gt positive), least, most⟩

end JsonRules.Decimal
