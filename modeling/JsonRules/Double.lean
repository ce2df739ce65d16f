/-
# JsonRules.Double -- doubles and exact numbers

A finite double is a whole number of steps of a power of two.  `Double.Exact.ofFloat?`
opens it up, and everything that asks for more than a comparison (cutting off the
fraction, writing digits) is then arithmetic on whole numbers.

`Double.nearest` goes the other way, from a fraction of whole numbers to a double.  It
counts in steps of the least positive double and depends on nothing but the value of the
fraction (`nearest_scale`).
-/

namespace JsonRules.Double

set_option autoImplicit false

-- Powers are the built-in ones, also where Mathlib is imported.
attribute [local instance (high)] instPowNat

/-- A finite double as `± mantissa · 2 ^ exponent`. -/
structure Exact where
  negative : Bool
  mantissa : Nat
  exponent : Int
  deriving DecidableEq, Repr

/-- The exact value of a finite double; a NaN and the infinities have none. -/
def Exact.ofFloat? (x : Float) : Option Exact :=
  match x.toModel.unpack with
  | .infinity _ | .notANumber => none
  | .zero sign => some ⟨sign == .negative, 0, 0⟩
  | .finite sign mantissa exponent _ => some ⟨sign == .negative, mantissa, exponent⟩

/-- The sign bit is set; that of a NaN never is. -/
def isNegative (x : Float) : Bool :=
  match x.toModel.unpack with
  | .notANumber => false
  | .infinity sign | .zero sign | .finite sign _ _ _ => sign == .negative

namespace Exact

/-- The whole part of the magnitude. -/
def wholePart (v : Exact) : Nat :=
  if 0 ≤ v.exponent then v.mantissa * 2 ^ v.exponent.toNat
  else v.mantissa / 2 ^ (-v.exponent).toNat

/-- The value cut off toward zero. -/
def truncate (v : Exact) : Int :=
  if v.negative then -(v.wholePart : Int) else v.wholePart

/-- The value has no fraction. -/
def isWhole (v : Exact) : Bool :=
  0 ≤ v.exponent || v.mantissa % 2 ^ (-v.exponent).toNat == 0

end Exact

/-- The whole number a finite double reaches when its fraction is cut off. -/
def truncate? (x : Float) : Option Int :=
  (Exact.ofFloat? x).map Exact.truncate

/-- The whole number a finite double is equal to, if there is one. -/
def whole? (x : Float) : Option Int :=
  (Exact.ofFloat? x).bind fun v => if v.isWhole then some v.truncate else none

/-! ## The double nearest to a fraction -/

/-- The whole number nearest to `num / den`; of two, the even one. -/
def roundHalfEven (num den : Nat) : Nat :=
  let low := num / den
  let rest := 2 * (num % den)
  if rest < den || (rest == den && low % 2 == 0) then low else low + 1

/-- The double `mantissa · 2 ^ shift` times the least positive double, for a mantissa of at most
fifty-three digits, all of which are used unless the shift is zero; beyond the greatest double it
is infinite. -/
def ofSteps (mantissa shift : Nat) : Float :=
  Float.ofBits (UInt64.ofNat (min (shift * 2 ^ (52 : Nat) + mantissa) (2047 * 2 ^ (52 : Nat))))

/-- The double nearest to `num / den`; of two, the one with the even mantissa. -/
def nearest (num den : Nat) : Float :=
  let steps := num * 2 ^ (1074 : Nat)
  let shift := (steps / den).log2 - 52
  ofSteps (roundHalfEven steps (den * 2 ^ shift)) shift

theorem roundHalfEven_scale {factor : Nat} (positive : 0 < factor) (num den : Nat) :
    roundHalfEven (factor * num) (factor * den) = roundHalfEven num den := by
  simp only [roundHalfEven, Nat.mul_div_mul_left _ _ positive, Nat.mul_mod_mul_left]
  have twice : 2 * (factor * (num % den)) = factor * (2 * (num % den)) := by
    rw [Nat.mul_left_comm]
  have below : factor * (2 * (num % den)) < factor * den ↔ 2 * (num % den) < den :=
    Nat.mul_lt_mul_left positive
  have half : factor * (2 * (num % den)) = factor * den ↔ 2 * (num % den) = den :=
    Nat.mul_right_inj (Nat.ne_of_gt positive)
  simp only [twice, below, Bool.or_eq_true, Bool.and_eq_true, decide_eq_true_eq, beq_iff_eq, half]

/-- A fraction that is not in lowest terms has the same nearest double as the reduced one. -/
theorem nearest_scale {factor : Nat} (positive : 0 < factor) (num den : Nat) :
    nearest (factor * num) (factor * den) = nearest num den := by
  simp only [nearest, Nat.mul_assoc, Nat.mul_div_mul_left _ _ positive,
    roundHalfEven_scale positive]

/-- The double nearest to a whole number. -/
def ofInt (n : Int) : Float := if n < 0 then -nearest n.natAbs 1 else nearest n.natAbs 1

/-! ## Comparing doubles -/

/-- The smaller of two doubles; a NaN gives way to the other operand. -/
def min (a b : Float) : Float :=
  if a < b then a else if b < a then b else if a.isNaN then b else a

/-- The larger of two doubles; a NaN gives way to the other operand. -/
def max (a b : Float) : Float :=
  if b < a then a else if a < b then b else if a.isNaN then b else a

end JsonRules.Double
