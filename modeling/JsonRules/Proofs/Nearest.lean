/-
# JsonRules.Proofs.Nearest -- which double is the nearest one

Opening up a double and putting together its steps are inverse (`abs_of_exact`), and what is left
of the sign is one negation (`neg_abs`, `abs_eq_self`).  So a fraction has a double as its nearest
one as soon as it rounds to the steps of this double.  An error of half a unit of the seventeenth
decimal digit is too small to matter, since ten to the sixteenth is more than two to the
fifty-third (`nearest_eq_abs`).
-/
import JsonRules.Double
import Mathlib

namespace JsonRules.Double

set_option autoImplicit false

open Float.Model (UnpackedFloat Format)
open Float.Model.UnpackedFloat

/-! ## Sign and magnitude -/

/-- The bits without the sign. -/
def magnitudeBits (bits : BitVec Format.binary64.numBits) : BitVec Format.binary64.numBits :=
  packComponents Format.binary64 .positive (unpackExponent bits) (unpackMantissa bits)

theorem unpack_magnitudeBits (bits : BitVec Format.binary64.numBits) :
    unpack Format.binary64 (magnitudeBits bits) = (unpack Format.binary64 bits).abs := by
  simp only [unpack, magnitudeBits, unpackMantissa_packComponents, unpackExponent_packComponents,
    unpackSign_packComponents, Sign.ofBitVec_toBitVec]
  split_ifs <;> rfl

theorem valid_magnitudeBits {bits : BitVec Format.binary64.numBits}
    (valid : Format.binary64.Valid bits) : Format.binary64.Valid (magnitudeBits bits) := by
  constructor
  intro full nonzero
  rw [magnitudeBits, unpackExponent_packComponents] at full
  rw [magnitudeBits, unpackMantissa_packComponents] at nonzero
  have canonical := valid.eq_packedNaN full nonzero
  rw [canonical]
  simp only [magnitudeBits, packedNaN, unpackExponent_packComponents, unpackMantissa_packComponents]

theorem abs_toBits (x : Float) :
    x.abs.toBits = UInt64.ofBitVec (magnitudeBits x.toBits.toBitVec) := by
  have packed := pack_unpack_of_valid (valid_magnitudeBits x.toModel.valid)
  rw [unpack_magnitudeBits] at packed
  exact congrArg UInt64.ofBitVec packed

/-- The magnitude of a double is opened up as the double is, but for the sign. -/
theorem unpack_abs (x : Float) : x.abs.toModel.unpack = x.toModel.unpack.abs := by
  change unpack Format.binary64 x.abs.toBits.toBitVec = _
  rw [abs_toBits, unpack_magnitudeBits]
  rfl

theorem abs_eq_self {x : Float} (positive : isNegative x = false) : x.abs = x := by
  have opened : x.abs.toModel.unpack = x.toModel.unpack := by
    rw [unpack_abs]
    unfold isNegative at positive
    cases opened : x.toModel.unpack with
    | notANumber => rfl
    | infinity sign | zero sign | finite sign =>
        cases sign with
        | positive => rfl
        | negative => simp [opened] at positive
  rw [← Float.toBits_inj, ← UInt64.toBitVec_inj]
  exact (unpack_inj_of_valid x.abs.toModel.valid x.toModel.valid).mp opened

theorem neg_abs {x : Float} (negative : isNegative x = true) : -x.abs = x := by
  have opened : x.abs.toModel.unpack.neg = x.toModel.unpack := by
    rw [unpack_abs]
    unfold isNegative at negative
    cases opened : x.toModel.unpack with
    | notANumber => rfl
    | infinity sign | zero sign | finite sign =>
        cases sign with
        | positive => simp [opened] at negative
        | negative => rfl
  rw [← Float.toBits_inj]
  change UInt64.ofBitVec (pack Format.binary64 x.abs.toModel.unpack.neg) = x.toBits
  rw [opened]
  exact congrArg UInt64.ofBitVec (pack_unpack_of_valid x.toModel.valid)

/-- The exponent bits of a double. -/
def exponentBits (x : Float) : BitVec 11 := @unpackExponent Format.binary64 x.toBits.toBitVec

/-- The mantissa bits of a double, without the leading one. -/
def mantissaBits (x : Float) : BitVec 52 := @unpackMantissa Format.binary64 x.toBits.toBitVec

theorem toNat_abs_toBits (x : Float) :
    x.abs.toBits.toNat = (exponentBits x).toNat * 2 ^ 52 + (mantissaBits x).toNat := by
  have bits : x.abs.toBits.toNat = (0#1 ++ exponentBits x ++ mantissaBits x).toNat :=
    congrArg UInt64.toNat (abs_toBits x)
  rw [bits, BitVec.toNat_append, BitVec.toNat_append, BitVec.toNat_ofNat, Nat.zero_mod,
    Nat.zero_shiftLeft, Nat.zero_or, Nat.shiftLeft_eq, Nat.mul_comm,
    ← Nat.two_pow_add_eq_or_of_lt (mantissaBits x).isLt]

theorem abs_eq_ofSteps {x : Float} {mantissa shift : Nat}
    (bits : (exponentBits x).toNat * 2 ^ 52 + (mantissaBits x).toNat = shift * 2 ^ 52 + mantissa)
    (finite : shift * 2 ^ 52 + mantissa < 2047 * 2 ^ 52) : x.abs = ofSteps mantissa shift := by
  rw [ofSteps, Nat.min_eq_left (Nat.le_of_lt finite), ← bits, ← toNat_abs_toBits,
    UInt64.ofNat_toNat, Float.ofBits_toBits]

/-- A mantissa and a shift that fit a double: all digits of the mantissa are used unless the shift
is zero, and the double is finite. -/
structure IsSteps (mantissa shift : Nat) : Prop where
  short : mantissa < 2 ^ 53
  full : shift = 0 ∨ 2 ^ 52 ≤ mantissa
  finite : shift * 2 ^ 52 + mantissa < 2047 * 2 ^ 52

/-- What is read off a double are its bits, with the leading one of a normal double. -/
theorem exact_cases {x : Float} {v : Exact} (opened : Exact.ofFloat? x = some v)
    (positive : 0 < v.mantissa) :
    ((exponentBits x).toNat = 0 ∧ v.exponent = -1074 ∧ v.mantissa = (mantissaBits x).toNat) ∨
      ((exponentBits x).toNat ≠ 0 ∧ (exponentBits x).toNat ≠ 2047 ∧
        v.exponent = (exponentBits x).toNat - 1075 ∧
        v.mantissa = 2 ^ 52 + (mantissaBits x).toNat) := by
  have bits : x.toModel.unpack = unpack Format.binary64 x.toBits.toBitVec := rfl
  rw [Exact.ofFloat?, bits, unpack] at opened
  dsimp only at opened
  split_ifs at opened with notFinite infinite subnormal isZero
  · cases opened
    simp at positive
  · cases opened
    have none : (exponentBits x).toNat = 0 := congrArg BitVec.toNat subnormal
    refine .inl ⟨none, ?_, rfl⟩
    change ((exponentBits x).toNat : Int) - (1023 + 52) + 1 = -1074
    omega
  · cases opened
    refine .inr ⟨fun none => subnormal (BitVec.eq_of_toNat_eq none),
      fun all => notFinite (BitVec.eq_of_toNat_eq all), rfl, ?_⟩
    change (1#1 ++ mantissaBits x).toNat = _
    rw [BitVec.toNat_append, Nat.shiftLeft_eq, Nat.mul_comm,
      ← Nat.two_pow_add_eq_or_of_lt (mantissaBits x).isLt]
    rfl

/-- What is read off a double is put together again, but for the sign. -/
theorem abs_of_exact {x : Float} {v : Exact} (opened : Exact.ofFloat? x = some v)
    (positive : 0 < v.mantissa) :
    ∃ shift : Nat, v.exponent = shift - 1074 ∧ IsSteps v.mantissa shift ∧
      x.abs = ofSteps v.mantissa shift := by
  have small : (mantissaBits x).toNat < 2 ^ 52 := (mantissaBits x).isLt
  have bounded : (exponentBits x).toNat < 2 ^ 11 := (exponentBits x).isLt
  obtain ⟨none, exponent, mantissa⟩ | ⟨some, notAll, exponent, mantissa⟩ :=
    exact_cases opened positive
  · have finite : 0 * 2 ^ 52 + v.mantissa < 2047 * 2 ^ 52 := by omega
    exact ⟨0, exponent, ⟨by omega, .inl rfl, finite⟩, abs_eq_ofSteps (by omega) finite⟩
  · have finite : ((exponentBits x).toNat - 1) * 2 ^ 52 + v.mantissa < 2047 * 2 ^ 52 := by omega
    exact ⟨(exponentBits x).toNat - 1, by omega, ⟨by omega, .inr (by omega), finite⟩,
      abs_eq_ofSteps (by omega) finite⟩

/-- The magnitude of a double that is neither zero nor infinite is strictly between the two. -/
theorem abs_toBits_bounds {x : Float} {v : Exact} (opened : Exact.ofFloat? x = some v)
    (positive : 0 < v.mantissa) : 0 < x.abs.toBits.toNat ∧ x.abs.toBits.toNat < 2047 * 2 ^ 52 := by
  have small : (mantissaBits x).toNat < 2 ^ 52 := (mantissaBits x).isLt
  have bounded : (exponentBits x).toNat < 2 ^ 11 := (exponentBits x).isLt
  have cases := exact_cases opened positive
  rw [toNat_abs_toBits]
  omega

/-- The magnitude of a zero has no bits. -/
theorem toBits_abs_zero {x : Float} {v : Exact} (opened : Exact.ofFloat? x = some v)
    (zero : v.mantissa = 0) : x.abs.toBits.toNat = 0 := by
  have unpacked : x.abs.toModel.unpack = .zero .positive := by
    rw [unpack_abs]
    unfold Exact.ofFloat? at opened
    split at opened
    case h_1 | h_2 => cases opened
    case h_3 same => rw [same]; rfl
    case h_4 positive same =>
      cases opened
      exact absurd zero (Nat.ne_of_gt positive)
  exact congrArg BitVec.toNat ((unpack_eq_zero_iff_of_valid x.abs.toModel.valid).mp unpacked)

theorem isNaN_of_isFinite {x : Float} (finite : x.isFinite = true) : x.isNaN = false := by
  change x.toModel.unpack.isFinite = true at finite
  change x.toModel.unpack.isNaN = false
  cases opened : x.toModel.unpack with
  | notANumber => rw [opened] at finite; cases finite
  | infinity sign | zero sign | finite sign => rfl

theorem isInf_of_isFinite {x : Float} (finite : x.isFinite = true) : x.isInf = false := by
  change x.toModel.unpack.isFinite = true at finite
  change x.toModel.unpack.isInf = false
  cases opened : x.toModel.unpack with
  | infinity sign => rw [opened] at finite; cases finite
  | notANumber | zero sign | finite sign => rfl

theorem exists_exact {x : Float} (finite : x.isFinite = true) : ∃ v, Exact.ofFloat? x = some v := by
  change x.toModel.unpack.isFinite = true at finite
  unfold Exact.ofFloat?
  cases opened : x.toModel.unpack with
  | notANumber | infinity sign => rw [opened] at finite; cases finite
  | zero sign | finite sign => exact ⟨_, rfl⟩

/-! ## Rounding -/

theorem roundHalfEven_eq {num den mantissa : Nat}
    (above : 2 * (mantissa * den) < 2 * num + den) (below : 2 * num < 2 * (mantissa * den) + den) :
    roundHalfEven num den = mantissa := by
  have parts : den * (num / den) + num % den = num := Nat.div_add_mod num den
  have positive : 0 < den := by omega
  have rest : num % den < den := Nat.mod_lt num positive
  unfold roundHalfEven
  dsimp only
  generalize num / den = low at parts ⊢
  rw [Nat.mul_comm den] at parts
  have upper : mantissa * den < (low + 2) * den := by rw [Nat.add_mul]; omega
  have lower : low * den < (mantissa + 1) * den := by rw [Nat.add_mul]; omega
  have upper := Nat.lt_of_mul_lt_mul_right upper
  have lower := Nat.lt_of_mul_lt_mul_right lower
  obtain rfl | rfl : mantissa = low ∨ mantissa = low + 1 := by omega
  · have near : 2 * (num % den) < den := by omega
    rw [if_pos (by simp [near])]
  · have far : den < 2 * (num % den) := by rw [Nat.add_mul] at above; omega
    rw [if_neg (by simp; omega)]

/-- A fraction of the binade of a shift, or below all binades, is rounded to the nearest number of
steps of this shift. -/
theorem rounded_eq_ofSteps {steps den mantissa shift : Nat}
    (low : shift = 0 ∨ 2 ^ (52 + shift) * den ≤ steps) (high : steps < 2 ^ (53 + shift) * den)
    (above : 2 * (mantissa * (den * 2 ^ shift)) < 2 * steps + den * 2 ^ shift)
    (below : 2 * steps < 2 * (mantissa * (den * 2 ^ shift)) + den * 2 ^ shift) :
    let binade := (steps / den).log2 - 52
    ofSteps (roundHalfEven steps (den * 2 ^ binade)) binade = ofSteps mantissa shift := by
  intro binade
  have positive : 0 < den := Nat.pos_of_mul_pos_left (Nat.zero_lt_of_lt high)
  have under : steps / den < 2 ^ (53 + shift) := (Nat.div_lt_iff_lt_mul positive).mpr high
  have same : binade = shift := by
    obtain rfl | least := low
    · obtain none | some := Nat.eq_zero_or_pos (steps / den)
      · simp only [binade, none, Nat.log2_zero]
      · have := (Nat.log2_lt (Nat.ne_of_gt some)).mpr under
        omega
    · have least : 2 ^ (52 + shift) ≤ steps / den := (Nat.le_div_iff_mul_le positive).mpr least
      have some : steps / den ≠ 0 := Nat.ne_of_gt (Nat.lt_of_lt_of_le (Nat.two_pow_pos _) least)
      have exact : (steps / den).log2 = 52 + shift :=
        (Nat.log2_eq_iff some).mpr ⟨least, by rwa [Nat.add_right_comm]⟩
      omega
  rw [same, roundHalfEven_eq above below]

/-- The mantissa that follows the last one of a shift is the first one of the next. -/
theorem ofSteps_carry (shift : Nat) : ofSteps (2 ^ 53) shift = ofSteps (2 ^ 52) (shift + 1) := by
  rw [ofSteps, ofSteps, Nat.add_mul, Nat.add_assoc]
  rfl

/-- Half a unit of the seventeenth decimal digit is too little to leave a double. -/
theorem rounded_of_close {steps den mantissa shift : Nat} (fits : IsSteps mantissa shift)
    (denominator : 0 < den)
    (close : 2 * 10 ^ 16 * |(steps : ℚ) - mantissa * (den * 2 ^ shift)|
      ≤ mantissa * (den * 2 ^ shift)) :
    let binade := (steps / den).log2 - 52
    ofSteps (roundHalfEven steps (den * 2 ^ binade)) binade = ofSteps mantissa shift := by
  have bounds := abs_le.mp ((le_div_iff₀' (by norm_num)).mpr close)
  have above : 2 * 10 ^ 16 * (mantissa * (den * 2 ^ shift))
      ≤ 2 * 10 ^ 16 * steps + mantissa * (den * 2 ^ shift) := by
    have : 2 * 10 ^ 16 * (mantissa * (den * 2 ^ shift) : ℚ)
      ≤ 2 * 10 ^ 16 * steps + mantissa * (den * 2 ^ shift) := by linarith
    exact_mod_cast this
  have below : 2 * 10 ^ 16 * steps
      ≤ 2 * 10 ^ 16 * (mantissa * (den * 2 ^ shift)) + mantissa * (den * 2 ^ shift) := by
    have : (2 * 10 ^ 16 * steps : ℚ)
      ≤ 2 * 10 ^ 16 * (mantissa * (den * 2 ^ shift)) + mantissa * (den * 2 ^ shift) := by linarith
    exact_mod_cast this
  have scaled (k shift : Nat) : 2 ^ (k + shift) * den = 2 ^ k * (den * 2 ^ shift) := by
    rw [Nat.pow_add, Nat.mul_assoc, Nat.mul_comm (2 ^ shift)]
  by_cases low : shift = 0 ∨ 2 ^ (52 + shift) * den ≤ steps
  · have short : mantissa * (den * 2 ^ shift) ≤ (2 ^ 53 - 1) * (den * 2 ^ shift) :=
      Nat.mul_le_mul_right _ (Nat.le_sub_one_of_lt fits.short)
    have unit : 0 < den * 2 ^ shift := Nat.mul_pos denominator (Nat.two_pow_pos shift)
    exact rounded_eq_ofSteps low (by rw [scaled]; omega) (by omega) (by omega)
  · -- The fraction is just below a power of two, where the steps are half as large.
    obtain ⟨some, under⟩ := not_or.mp low
    obtain ⟨before, rfl⟩ := Nat.exists_eq_add_one_of_ne_zero some
    have full : 2 ^ 52 ≤ mantissa := fits.full.resolve_left some
    have halved (k : Nat) : k * (den * 2 ^ (before + 1)) = 2 * (k * (den * 2 ^ before)) := by
      rw [Nat.pow_succ]
      ring
    have unit : 0 < den * 2 ^ before := Nat.mul_pos denominator (Nat.two_pow_pos before)
    rw [scaled, halved] at under
    rw [halved] at above below
    have small : mantissa < 2 ^ 52 + 1 := by
      refine Nat.lt_of_mul_lt_mul_right (a := den * 2 ^ before) ?_
      omega
    obtain rfl : mantissa = 2 ^ 52 := by omega
    rw [← ofSteps_carry]
    exact rounded_eq_ofSteps (.inr (by rw [scaled]; omega)) (by rw [scaled]; omega)
      (by omega) (by omega)

/-- The magnitude of an exact value. -/
def Exact.magnitude (v : Exact) : ℚ := v.mantissa * 2 ^ v.exponent

/-- A fraction whose distance from a double is at most half a unit of the seventeenth decimal digit
has this double as the nearest one. -/
theorem nearest_eq_abs {x : Float} {v : Exact} (opened : Exact.ofFloat? x = some v)
    (positive : 0 < v.mantissa) {num den : Nat} (denominator : 0 < den)
    (close : 2 * 10 ^ 16 * |(num / den : ℚ) - v.magnitude| ≤ v.magnitude) :
    nearest num den = x.abs := by
  obtain ⟨shift, exponent, fits, same⟩ := abs_of_exact opened positive
  have magnitude : v.mantissa * (den * 2 ^ shift) = v.magnitude * (den * 2 ^ 1074) := by
    rw [Exact.magnitude, exponent, zpow_sub₀ two_ne_zero, zpow_natCast, zpow_ofNat]
    field_simp
  have steps : (num * 2 ^ 1074 : ℚ) = (num / den) * (den * 2 ^ 1074) := by
    rw [← mul_assoc, div_mul_cancel₀ _ (by positivity)]
  have unit : (0 : ℚ) < den * 2 ^ 1074 := mul_pos (by positivity) (pow_pos two_pos 1074)
  rw [same]
  apply rounded_of_close fits denominator
  simp only [Nat.cast_mul, Nat.cast_pow, Nat.cast_ofNat]
  rw [steps, magnitude, ← sub_mul, abs_mul, abs_of_pos unit, ← mul_assoc]
  exact mul_le_mul_of_nonneg_right close unit.le

/-- Fractions of one value have one nearest double. -/
theorem nearest_congr {num den num' den' : Nat} (positive : 0 < den) (positive' : 0 < den')
    (same : (num / den : ℚ) = num' / den') : nearest num den = nearest num' den' := by
  have cross : den' * num = den * num' := by
    have : (num * den' : ℚ) = num' * den := (div_eq_div_iff (by positivity) (by positivity)).mp same
    have : num * den' = num' * den := by exact_mod_cast this
    rw [Nat.mul_comm, this, Nat.mul_comm]
  rw [← nearest_scale positive' num den, cross, Nat.mul_comm den' den, nearest_scale positive]

theorem Exact.magnitude_pos {v : Exact} (positive : 0 < v.mantissa) : 0 < v.magnitude := by
  unfold magnitude
  positivity

theorem ten_zpow_le_two_zpow : (10 : ℚ) ^ (-324 : ℤ) ≤ 2 ^ (-1074 : ℤ) := by
  have power : (2 : ℚ) ^ 1074 ≤ 10 ^ 324 :=
    calc (2 : ℚ) ^ 1074 = (2 ^ 179) ^ 6 := pow_mul 2 179 6
      _ ≤ (10 ^ 54) ^ 6 := pow_le_pow_left₀ (by positivity) (by norm_num) 6
      _ = 10 ^ 324 := (pow_mul 10 54 6).symm
  rw [zpow_neg, zpow_neg, zpow_ofNat, zpow_ofNat]
  exact inv_anti₀ (pow_pos two_pos 1074) power

theorem two_zpow_le_ten_zpow : (2 : ℚ) ^ 53 * 2 ^ (971 : ℤ) ≤ 10 ^ (312 : ℤ) :=
  calc (2 : ℚ) ^ 53 * 2 ^ 971 = (2 ^ 256) ^ 4 := by rw [← pow_add, ← pow_mul]
    _ ≤ (10 ^ 78) ^ 4 := pow_le_pow_left₀ (by positivity) (by norm_num) 4
    _ = 10 ^ 312 := (pow_mul 10 78 4).symm

/-- The magnitude of a double that is not zero, by powers of ten. -/
theorem magnitude_bounds {x : Float} {v : Exact} (opened : Exact.ofFloat? x = some v)
    (positive : 0 < v.mantissa) :
    (10 : ℚ) ^ (-324 : ℤ) ≤ v.magnitude ∧ v.magnitude < (10 : ℚ) ^ (312 : ℤ) := by
  obtain ⟨shift, exponent, fits, -⟩ := abs_of_exact opened positive
  have finite := fits.finite
  have full := fits.full
  have one : (1 : ℚ) ≤ v.mantissa := by exact_mod_cast positive
  have short : (v.mantissa : ℚ) < 2 ^ 53 := by exact_mod_cast fits.short
  constructor
  · calc (10 : ℚ) ^ (-324 : ℤ) ≤ 2 ^ (-1074 : ℤ) := ten_zpow_le_two_zpow
      _ ≤ 2 ^ v.exponent := zpow_le_zpow_right₀ one_le_two (by omega)
      _ ≤ v.magnitude := le_mul_of_one_le_left (by positivity) one
  · calc v.magnitude < 2 ^ 53 * 2 ^ v.exponent := mul_lt_mul_of_pos_right short (by positivity)
      _ ≤ 2 ^ 53 * 2 ^ (971 : ℤ) := by gcongr <;> [norm_num; omega]
      _ ≤ 10 ^ (312 : ℤ) := two_zpow_le_ten_zpow

end JsonRules.Double
