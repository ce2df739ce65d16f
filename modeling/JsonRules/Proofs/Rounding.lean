/-
# JsonRules.Proofs.Rounding -- whole numbers rounded to doubles

A double that is given by its steps opens up as these steps (`exact_ofSteps`), and turning its sign
around turns only its sign around (`exact_neg`).  So the double nearest to a whole number is known
as far as its fraction is cut off: it does not go below a power of two that the number has reached
(`two_pow_le_truncate`), and beyond the signed words it comes down to the limit of the words for the
first 1024 numbers and for no other (`nearest_limit`, `lt_truncate_nearest`).

The reader of decimals takes a shortcut for those that are certainly too large.  For whole numbers
it makes no difference (`Decimal.toFloat_whole`).
-/
import JsonRules.Proofs.Shortest

namespace JsonRules.Double

set_option autoImplicit false

-- Powers are the built-in ones, also where Mathlib is imported.
attribute [local instance (high)] instPowNat

open Float.Model (UnpackedFloat Format)
open Float.Model.UnpackedFloat

/-! ## The opposite of a double -/

/-- The bits with the sign turned around. -/
def oppositeBits (bits : BitVec Format.binary64.numBits) : BitVec Format.binary64.numBits :=
  packComponents Format.binary64 (-Sign.ofBitVec (unpackSign bits)) (unpackExponent bits)
    (unpackMantissa bits)

theorem unpack_oppositeBits (bits : BitVec Format.binary64.numBits) :
    unpack Format.binary64 (oppositeBits bits) = (unpack Format.binary64 bits).neg := by
  simp only [unpack, oppositeBits, unpackMantissa_packComponents, unpackExponent_packComponents,
    unpackSign_packComponents, Sign.ofBitVec_toBitVec]
  split_ifs <;> rfl

/-- The opposite of a double is opened up as the double is, but for the sign. -/
theorem unpack_neg (x : Float) : (-x).toModel.unpack = x.toModel.unpack.neg := by
  show unpack Format.binary64 (pack Format.binary64 x.toModel.unpack.neg) = _
  by_cases number : x.toModel.unpack = .notANumber
  · rw [number]
    exact unpack_packedNaN
  · have valid : Format.binary64.Valid (oppositeBits x.toBits.toBitVec) := by
      constructor
      intro full nonzero
      -- Such bits are no number, and neither are those they come from.
      rw [oppositeBits, unpackExponent_packComponents] at full
      rw [oppositeBits, unpackMantissa_packComponents] at nonzero
      refine absurd ?_ number
      have canonical := x.toModel.valid.eq_packedNaN full nonzero
      exact (congrArg (unpack Format.binary64) canonical).trans unpack_packedNaN
    have packed := pack_unpack_of_valid valid
    rw [unpack_oppositeBits] at packed
    show unpack Format.binary64 (pack Format.binary64
      (unpack Format.binary64 x.toBits.toBitVec).neg) = _
    rw [packed, unpack_oppositeBits]
    rfl

namespace Exact

/-- The same magnitude with the other sign. -/
def opposite (v : Exact) : Exact := { v with negative := !v.negative }

@[simp] theorem isWhole_opposite (v : Exact) : v.opposite.isWhole = v.isWhole := rfl

@[simp] theorem truncate_opposite (v : Exact) : v.opposite.truncate = -v.truncate := by
  obtain ⟨negative, mantissa, exponent⟩ := v
  cases negative with
  | false => rfl
  | true => exact (Int.neg_neg _).symm

end Exact

theorem exact_neg (x : Float) : Exact.ofFloat? (-x) = (Exact.ofFloat? x).map Exact.opposite := by
  unfold Exact.ofFloat?
  rw [unpack_neg]
  cases x.toModel.unpack with
  | notANumber | infinity sign => rfl
  | zero sign | finite sign => cases sign <;> rfl

theorem truncate?_neg (x : Float) : truncate? (-x) = (truncate? x).map (- ·) := by
  simp only [truncate?, exact_neg, Option.map_map]
  congr 1
  funext v
  exact v.truncate_opposite

theorem whole?_neg (x : Float) : whole? (-x) = (whole? x).map (- ·) := by
  unfold whole?
  rw [exact_neg]
  cases Exact.ofFloat? x with
  | none => rfl
  | some v =>
      simp only [Option.map_some, Option.bind_some, Exact.isWhole_opposite,
        Exact.truncate_opposite]
      split <;> rfl

/-- A whole double is one whose fraction can be cut off. -/
theorem truncate?_of_whole? {x : Float} {n : Int} (whole : whole? x = some n) :
    truncate? x = some n := by
  obtain ⟨v, opened, same⟩ := Option.bind_eq_some_iff.mp whole
  split at same
  · rw [truncate?, opened, Option.map_some]
    exact same
  · cases same

/-- Only finite doubles open up. -/
theorem exact_eq_none {x : Float} (infinite : ¬ x.isFinite = true) : Exact.ofFloat? x = none := by
  change ¬ x.toModel.unpack.isFinite = true at infinite
  unfold Exact.ofFloat?
  cases opened : x.toModel.unpack with
  | notANumber | infinity sign => rfl
  | zero sign | finite sign =>
      rw [opened] at infinite
      exact absurd rfl infinite

/-! ## Steps opened up -/

theorem toNat_exponentBits (x : Float) :
    (exponentBits x).toNat = x.toBits.toNat / 2 ^ 52 % 2 ^ 11 := by
  rw [exponentBits, unpackExponent_def, BitVec.extractLsb'_toNat, Nat.shiftRight_eq_div_pow]
  rfl

theorem toNat_mantissaBits (x : Float) : (mantissaBits x).toNat = x.toBits.toNat % 2 ^ 52 := by
  rw [mantissaBits, unpackMantissa_def, BitVec.extractLsb'_toNat, Nat.shiftRight_zero]
  rfl

/-- The leading one of a normal double stands above the other bits of its mantissa. -/
theorem toNat_one_append (mantissa : BitVec 52) :
    (1#1 ++ mantissa).toNat = 2 ^ 52 + mantissa.toNat := by
  rw [BitVec.toNat_append, Nat.shiftLeft_eq, Nat.mul_comm,
    ← Nat.two_pow_add_eq_or_of_lt mantissa.isLt]
  rfl

/-- Where the bits are those of steps, the steps are read off them. -/
theorem exact_of_toBits {x : Float} {mantissa shift : Nat} (fits : IsSteps mantissa shift)
    (positive : 0 < mantissa) (bits : x.toBits.toNat = shift * 2 ^ 52 + mantissa) :
    Exact.ofFloat? x = some ⟨false, mantissa, shift - 1074⟩ := by
  obtain ⟨short, full, finite⟩ := fits
  have exponent := toNat_exponentBits x
  have rest := toNat_mantissaBits x
  have sign : @unpackSign Format.binary64 x.toBits.toBitVec = 0#1 := by
    apply BitVec.eq_of_toNat_eq
    rw [unpackSign_def, BitVec.extractLsb'_toNat, Nat.shiftRight_eq_div_pow]
    show x.toBits.toNat / 2 ^ 63 % 2 = 0
    omega
  have opened : x.toModel.unpack = unpack Format.binary64 x.toBits.toBitVec := rfl
  rw [Exact.ofFloat?, opened, unpack, sign]
  dsimp only
  split_ifs with notFinite infinite subnormal zero
  · have same : (exponentBits x).toNat = 2047 := congrArg BitVec.toNat notFinite
    omega
  · have same : (exponentBits x).toNat = 2047 := congrArg BitVec.toNat notFinite
    omega
  · have none : (exponentBits x).toNat = 0 := congrArg BitVec.toNat subnormal
    have same : (mantissaBits x).toNat = 0 := congrArg BitVec.toNat zero
    omega
  · have none : (exponentBits x).toNat = 0 := congrArg BitVec.toNat subnormal
    have same : (mantissaBits x).toNat = mantissa := by omega
    have least : ((exponentBits x).toNat : Int) - (1023 + 52) + 1 = shift - 1074 := by omega
    exact congrArg some (congrArg₂ (Exact.mk false) same least)
  · have some : (exponentBits x).toNat ≠ 0 := fun none => subnormal (BitVec.eq_of_toNat_eq none)
    have same : (1#1 ++ mantissaBits x).toNat = mantissa := by
      rw [toNat_one_append]
      omega
    have power : ((exponentBits x).toNat : Int) - (1023 + 52) = shift - 1074 := by omega
    exact congrArg Option.some (congrArg₂ (Exact.mk false) same power)

/-- Bits up to those of infinity are kept; beyond them only the bits of a NaN are not. -/
theorem toBits_ofBits {bits : UInt64} (number : bits.toNat ≤ 2047 * 2 ^ 52) :
    (Float.ofBits bits).toBits = bits := by
  have valid : Format.binary64.Valid bits.toBitVec := by
    constructor
    intro full nonzero
    refine absurd (BitVec.eq_of_toNat_eq ?_) nonzero
    have exponent := congrArg BitVec.toNat full
    rw [unpackExponent_def, BitVec.extractLsb'_toNat, Nat.shiftRight_eq_div_pow] at exponent
    rw [unpackMantissa_def, BitVec.extractLsb'_toNat, Nat.shiftRight_zero]
    change bits.toNat / 2 ^ 52 % 2 ^ 11 = 2047 at exponent
    show bits.toNat % 2 ^ 52 = 0
    omega
  exact congrArg UInt64.ofBitVec (pack_unpack_of_valid valid)

theorem toBits_ofSteps {mantissa shift : Nat}
    (finite : shift * 2 ^ 52 + mantissa ≤ 2047 * 2 ^ 52) :
    (ofSteps mantissa shift).toBits.toNat = shift * 2 ^ 52 + mantissa := by
  have word : (UInt64.ofNat (shift * 2 ^ 52 + mantissa)).toNat = shift * 2 ^ 52 + mantissa := by
    rw [UInt64.toNat_ofNat']
    exact Nat.mod_eq_of_lt (by omega)
  rw [ofSteps, Nat.min_eq_left finite, toBits_ofBits (by omega), word]

/-- A double is opened up as the steps that it is given by. -/
theorem exact_ofSteps {mantissa shift : Nat} (fits : IsSteps mantissa shift)
    (positive : 0 < mantissa) :
    Exact.ofFloat? (ofSteps mantissa shift) = some ⟨false, mantissa, shift - 1074⟩ :=
  exact_of_toBits fits positive (toBits_ofSteps (Nat.le_of_lt fits.finite))

theorem ofSteps_infinite {mantissa shift : Nat}
    (infinite : 2047 * 2 ^ 52 ≤ shift * 2 ^ 52 + mantissa) :
    ofSteps mantissa shift = ofSteps 0 2047 := by
  rw [ofSteps, Nat.min_eq_right infinite]
  rfl

theorem exact_infinite : Exact.ofFloat? (ofSteps 0 2047) = none := by decide +kernel

/-! ## The double nearest to a whole number -/

theorem log2_mul_two_pow {n : Nat} (positive : 0 < n) (power : Nat) :
    (n * 2 ^ power).log2 = n.log2 + power := by
  induction power with
  | zero => rw [Nat.pow_zero, Nat.mul_one, Nat.add_zero]
  | succ power ih =>
      have scaled : n * 2 ^ power ≠ 0 := Nat.ne_of_gt (Nat.mul_pos positive (Nat.two_pow_pos power))
      rw [Nat.pow_succ, ← Nat.mul_assoc, Nat.mul_comm _ 2, Nat.log2_two_mul scaled, ih,
        Nat.add_assoc]

theorem div_le_roundHalfEven (num den : Nat) : num / den ≤ roundHalfEven num den := by
  unfold roundHalfEven
  dsimp only
  split <;> omega

theorem roundHalfEven_le (num den : Nat) : roundHalfEven num den ≤ num / den + 1 := by
  unfold roundHalfEven
  dsimp only
  split <;> omega

/-- The mantissa of the double nearest to a whole number, before a carry. -/
def mantissaOf (n : Nat) : Nat := roundHalfEven (n * 2 ^ (52 : Nat)) (2 ^ n.log2)

attribute [local irreducible] mantissaOf

theorem nearest_eq_ofSteps {n : Nat} (positive : 0 < n) :
    nearest n 1 = ofSteps (mantissaOf n) (n.log2 + 1022) := by
  have shift : (n * 2 ^ (1074 : Nat) / 1).log2 - 52 = n.log2 + 1022 := by
    rw [Nat.div_one, log2_mul_two_pow positive 1074]
    omega
  have steps (unit : Nat) : n * 2 ^ (unit + 52) = 2 ^ unit * (n * 2 ^ (52 : Nat)) := by
    rw [Nat.pow_add, Nat.mul_left_comm]
  have binade (unit : Nat) : 1 * 2 ^ (n.log2 + unit) = 2 ^ unit * 2 ^ n.log2 := by
    rw [Nat.one_mul, Nat.add_comm, Nat.pow_add]
  have scaled := roundHalfEven_scale (Nat.two_pow_pos 1022) (n * 2 ^ (52 : Nat)) (2 ^ n.log2)
  have power : 1022 + 52 = 1074 := rfl
  rw [nearest, shift, mantissaOf, ← scaled, ← steps 1022, ← binade 1022, power]

/-- All fifty-three digits of the mantissa are used. -/
theorem mantissaOf_bounds {n : Nat} (positive : 0 < n) :
    2 ^ 52 ≤ mantissaOf n ∧ mantissaOf n ≤ 2 ^ 53 := by
  obtain ⟨reached, next⟩ := (Nat.log2_eq_iff (Nat.ne_of_gt positive)).mp rfl
  have least : 2 ^ 52 ≤ n * 2 ^ 52 / 2 ^ n.log2 := by
    rw [Nat.le_div_iff_mul_le (Nat.two_pow_pos _), Nat.mul_comm]
    exact Nat.mul_le_mul_right _ reached
  have most : n * 2 ^ 52 / 2 ^ n.log2 < 2 ^ 53 := by
    rw [Nat.pow_succ] at next
    rw [Nat.div_lt_iff_lt_mul (Nat.two_pow_pos _)]
    omega
  have above := div_le_roundHalfEven (n * 2 ^ 52) (2 ^ n.log2)
  have below := roundHalfEven_le (n * 2 ^ 52) (2 ^ n.log2)
  rw [mantissaOf]
  omega

/-- The double nearest to a whole number has steps that are not shorter than those of the binade of
the number, or it is infinite. -/
theorem nearest_cases {n : Nat} (positive : 0 < n) :
    (∃ mantissa shift, nearest n 1 = ofSteps mantissa shift ∧ IsSteps mantissa shift ∧
        2 ^ 52 ≤ mantissa ∧ n.log2 + 1022 ≤ shift) ∨
      nearest n 1 = ofSteps 0 2047 := by
  obtain ⟨full, short⟩ := mantissaOf_bounds positive
  rw [nearest_eq_ofSteps positive]
  by_cases infinite : 2047 * 2 ^ 52 ≤ (n.log2 + 1022) * 2 ^ 52 + mantissaOf n
  · exact .inr (ofSteps_infinite infinite)
  · have finite := Nat.lt_of_not_le infinite
    refine .inl ?_
    rcases Nat.lt_or_eq_of_le short with below | carry
    · exact ⟨mantissaOf n, n.log2 + 1022, rfl, ⟨below, .inr full, finite⟩, full, le_rfl⟩
    · have double : 2 ^ 53 = 2 ^ 52 + 2 ^ 52 := rfl
      rw [carry, double, ← Nat.add_assoc, ← Nat.succ_mul] at finite
      exact ⟨_, _, carry ▸ ofSteps_carry _, ⟨by decide, .inr (Nat.le_refl _), finite⟩,
        Nat.le_refl _, Nat.le_succ _⟩

theorem truncate?_ofSteps {mantissa shift : Nat} (fits : IsSteps mantissa shift)
    (positive : 0 < mantissa) :
    truncate? (ofSteps mantissa shift)
      = some ((Exact.mk false mantissa (shift - 1074)).wholePart : Int) := by
  rw [truncate?, exact_ofSteps fits positive]
  rfl

theorem truncate?_infinite : truncate? (ofSteps 0 2047) = none := by
  rw [truncate?, exact_infinite]
  rfl

theorem two_pow_le_wholePart {mantissa shift power : Nat} (full : 2 ^ 52 ≤ mantissa)
    (reached : power + 1022 ≤ shift) :
    2 ^ power ≤ (Exact.mk false mantissa (shift - 1074)).wholePart := by
  unfold Exact.wholePart
  dsimp only
  split
  · calc 2 ^ power ≤ 2 ^ (52 + ((shift : Int) - 1074).toNat) :=
          Nat.pow_le_pow_right (by decide) (by omega)
      _ = 2 ^ 52 * 2 ^ ((shift : Int) - 1074).toNat := Nat.pow_add ..
      _ ≤ mantissa * 2 ^ ((shift : Int) - 1074).toNat := Nat.mul_le_mul_right _ full
  · rw [Nat.le_div_iff_mul_le (Nat.two_pow_pos _), ← Nat.pow_add]
    exact (Nat.pow_le_pow_right (by decide) (by omega)).trans full

/-- Rounding does not go below a power of two that the number has reached. -/
theorem two_pow_le_truncate {n power : Nat} {cut : Int} (reached : 2 ^ power ≤ n)
    (opened : truncate? (nearest n 1) = some cut) : 2 ^ power ≤ cut := by
  have positive : 0 < n := Nat.lt_of_lt_of_le (Nat.two_pow_pos power) reached
  have binade : power ≤ n.log2 := (Nat.le_log2 (Nat.ne_of_gt positive)).mpr reached
  rcases nearest_cases positive with ⟨mantissa, shift, same, fits, full, high⟩ | infinite
  · rw [same, truncate?_ofSteps fits (by omega)] at opened
    cases opened
    exact_mod_cast two_pow_le_wholePart full (by omega)
  · rw [infinite, truncate?_infinite] at opened
    cases opened

/-! ## The limit of the signed words -/

/-- In the first binade beyond the signed words a step is 2048. -/
theorem mantissaOf_beyond {n : Nat} (least : 2 ^ 63 ≤ n) (most : n < 2 ^ 64) :
    n.log2 = 63 ∧ mantissaOf n = roundHalfEven n (2 ^ 11) := by
  have binade : n.log2 = 63 := (Nat.log2_eq_iff (by omega)).mpr ⟨least, most⟩
  refine ⟨binade, ?_⟩
  rw [mantissaOf, binade, Nat.mul_comm n]
  exact roundHalfEven_scale (Nat.two_pow_pos 52) n (2 ^ 11)

/-- The numbers that are at most half a step above the limit come down to it. -/
theorem nearest_limit {n : Nat} (least : 2 ^ 63 ≤ n) (most : n ≤ 2 ^ 63 + 1024) :
    nearest n 1 = ofSteps (2 ^ 52) 1085 := by
  obtain ⟨binade, mantissa⟩ := mantissaOf_beyond least (by omega)
  have rounded : roundHalfEven n (2 ^ 11) = 2 ^ 52 := by
    have low : n / 2 ^ 11 = 2 ^ 52 := by omega
    unfold roundHalfEven
    dsimp only
    rw [low, if_pos]
    simp only [Bool.or_eq_true, decide_eq_true_eq, Bool.and_eq_true, beq_iff_eq]
    omega
  rw [nearest_eq_ofSteps (by omega), binade, mantissa, rounded]

theorem isSteps_limit : IsSteps (2 ^ 52) 1085 := ⟨by decide, .inr le_rfl, by decide⟩

/-- No other number beyond the limit does. -/
theorem lt_truncate_nearest {n : Nat} {cut : Int} (above : 2 ^ 63 + 1024 < n)
    (opened : truncate? (nearest n 1) = some cut) : 2 ^ 63 < cut := by
  by_cases far : 2 ^ 64 ≤ n
  · have reached := two_pow_le_truncate far opened
    omega
  · obtain ⟨binade, mantissa⟩ := mantissaOf_beyond (n := n) (by omega) (by omega)
    have up : 2 ^ 52 < mantissaOf n := by
      have low := Nat.div_add_mod n (2 ^ 11)
      rw [mantissa]
      unfold roundHalfEven
      dsimp only
      split
      · rename_i down
        simp only [Bool.or_eq_true, decide_eq_true_eq, Bool.and_eq_true, beq_iff_eq] at down
        omega
      · omega
    have short := (mantissaOf_bounds (n := n) (by omega)).2
    have same := nearest_eq_ofSteps (n := n) (by omega)
    rw [binade] at same
    rcases Nat.lt_or_eq_of_le short with below | carry
    · rw [same, truncate?_ofSteps ⟨below, .inr (Nat.le_of_lt up), by omega⟩ (by omega)] at opened
      cases opened
      show (2 ^ 63 : Int) < (mantissaOf n * 2 ^ 11 : Nat)
      omega
    · rw [same, carry, ofSteps_carry,
        truncate?_ofSteps ⟨by decide, .inr (Nat.le_refl _), by decide⟩ (by decide)] at opened
      cases opened
      decide

/-! ## The double nearest to an integer -/

theorem ofInt_neg {n : Nat} (positive : 0 < n) : ofInt (-(n : Int)) = -nearest n 1 := by
  have negative : -(n : Int) < 0 := by omega
  rw [ofInt, if_pos negative, Int.natAbs_neg, Int.natAbs_natCast]

theorem ofInt_natCast (n : Nat) : ofInt n = nearest n 1 := by
  have nonnegative : ¬ (n : Int) < 0 := by omega
  rw [ofInt, if_neg nonnegative, Int.natAbs_natCast]

/-- What is cut off the double nearest to a negative number, from the number without its sign. -/
theorem truncate?_ofInt_neg {n : Nat} {cut : Int} (positive : 0 < n)
    (opened : truncate? (ofInt (-(n : Int))) = some cut) :
    truncate? (nearest n 1) = some (-cut) := by
  rw [ofInt_neg positive, truncate?_neg, Option.map_eq_some_iff] at opened
  obtain ⟨magnitude, opened, rfl⟩ := opened
  rw [opened, Int.neg_neg]

/-- The numbers that are at most half a step below the least signed word come up to it. -/
theorem whole?_ofInt_limit {n : Int} (least : -2 ^ 63 - 1024 ≤ n) (most : n ≤ -2 ^ 63) :
    whole? (ofInt n) = some (-2 ^ 63) := by
  obtain ⟨magnitude, rfl⟩ : ∃ magnitude : Nat, n = -magnitude := ⟨n.natAbs, by omega⟩
  rw [ofInt_neg (by omega), whole?_neg, nearest_limit (by omega) (by omega), whole?,
    exact_ofSteps isSteps_limit (by decide)]
  decide

theorem truncate?_ofInt_lt {n cut : Int} (below : n < -2 ^ 63 - 1024)
    (opened : truncate? (ofInt n) = some cut) : cut < -2 ^ 63 := by
  obtain ⟨magnitude, rfl⟩ : ∃ magnitude : Nat, n = -magnitude := ⟨n.natAbs, by omega⟩
  have above := lt_truncate_nearest (by omega) (truncate?_ofInt_neg (by omega) opened)
  omega

theorem le_truncate?_ofInt {n cut : Int} {power : Nat} (reached : 2 ^ power ≤ n)
    (opened : truncate? (ofInt n) = some cut) : 2 ^ power ≤ cut := by
  have positive : (0 : Int) < 2 ^ power := Int.pow_pos (by decide)
  have nonnegative : 0 ≤ n := Int.le_of_lt (Int.lt_of_lt_of_le positive reached)
  obtain ⟨magnitude, rfl⟩ := Int.eq_ofNat_of_zero_le nonnegative
  rw [ofInt_natCast] at opened
  exact two_pow_le_truncate (by exact_mod_cast reached) opened

theorem truncate?_ofInt_neg_lt {n cut : Int} (negative : n < 0)
    (opened : truncate? (ofInt n) = some cut) : cut < 0 := by
  obtain ⟨magnitude, rfl⟩ : ∃ magnitude : Nat, n = -magnitude := ⟨n.natAbs, by omega⟩
  have one : 2 ^ 0 ≤ magnitude := by omega
  have reached := two_pow_le_truncate one (truncate?_ofInt_neg (by omega) opened)
  omega

end JsonRules.Double

/-! ## Whole decimals -/

namespace JsonRules.Decimal

set_option autoImplicit false

attribute [local instance (high)] instPowNat

theorem two_pow_le_ten_pow (blocks : Nat) : 2 ^ (205 * blocks) ≤ 10 ^ (66 * blocks) := by
  rw [Nat.pow_mul, Nat.pow_mul]
  exact Nat.pow_le_pow_left (by decide) blocks

/-- A whole number with more than 330 digits is beyond all doubles. -/
theorem nearest_large {n : Nat} (large : 10 ^ (66 * 5 : Nat) ≤ n) :
    Double.nearest n 1 = Double.ofSteps 0 2047 := by
  have reached : 2 ^ (205 * 5 : Nat) ≤ n := (two_pow_le_ten_pow 5).trans large
  have positive : 0 < n := Nat.lt_of_lt_of_le (Nat.two_pow_pos _) reached
  have binade : 205 * 5 ≤ n.log2 := (Nat.le_log2 (Nat.ne_of_gt positive)).mpr reached
  rw [Double.nearest_eq_ofSteps positive]
  apply Double.ofSteps_infinite
  calc 2047 * 2 ^ 52 ≤ (n.log2 + 1022) * 2 ^ 52 := Nat.mul_le_mul_right _ (by omega)
    _ ≤ (n.log2 + 1022) * 2 ^ 52 + Double.mantissaOf n := Nat.le_add_right _ _

theorem nearest_shortcut : Double.nearest (10 ^ (330 : Nat)) 1 = Double.ofSteps 0 2047 := by
  decide +kernel

/-- Where a decimal is a whole number, the shortcuts of `toFloat` change nothing. -/
theorem toFloat_whole (n : Nat) : (Decimal.mk n 0).toFloat = Double.nearest n 1 := by
  by_cases zero : n = 0
  · rw [zero]
    rfl
  have digits : 0 < (Nat.toDigits 10 n).length := Nat.length_toDigits_pos
  unfold toFloat point
  dsimp only
  rw [if_neg (by simp; omega)]
  split
  · have few := Nat.length_toDigits_le_iff (b := 10) (n := n) (k := 66 * 5) (by decide) (by decide)
    rw [nearest_shortcut, nearest_large (by omega)]
  · rw [if_pos (Int.le_refl 0), Int.toNat_zero, Nat.pow_zero, Nat.mul_one]

end JsonRules.Decimal
