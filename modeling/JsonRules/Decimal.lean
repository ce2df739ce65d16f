/-
# JsonRules.Decimal -- decimals, and the double nearest to one

A decimal is a whole number of units of a power of ten.  It is what the digits of
a number text mean, whatever grammar the text follows, and what is chosen to write
a double.
-/
import JsonRules.Double

namespace JsonRules

set_option autoImplicit false

-- Powers are the built-in ones, also where Mathlib is imported.
attribute [local instance (high)] instPowNat

/-- The magnitude `significand · 10 ^ exponent`. -/
structure Decimal where
  significand : Nat
  exponent : Int
  deriving DecidableEq, Repr

namespace Decimal

/-- The value of a digit. -/
def digitValue (c : Char) : Nat := c.toNat - '0'.toNat

/-- The number that a run of digits writes. -/
def ofDigits (digits : List Char) : Nat :=
  digits.foldl (fun value c => 10 * value + digitValue c) 0

/-- The digits of a whole number, with its sign. -/
def integerText (value : Int) : List Char :=
  if value < 0 then '-' :: Nat.toDigits 10 value.natAbs else Nat.toDigits 10 value.natAbs

/-- The decimal written by a run of digits, a fraction behind a point, and an
exponent. -/
def ofParts (whole fraction : List Char) (exponent : Int) : Decimal :=
  ⟨ofDigits (whole ++ fraction), exponent - fraction.length⟩

/-- Where the point stands, counted from the first digit: the magnitude of a decimal
with a positive significand is below `10 ^ point` and not below `10 ^ (point - 1)`. -/
def point (d : Decimal) : Int :=
  (Nat.toDigits 10 d.significand).length + d.exponent

/-- The double nearest to a decimal.  The points with which a decimal is certainly too large or too
small for a double are seen without working it out. -/
def toFloat (d : Decimal) : Float :=
  if d.significand = 0 || d.point < -330 then Double.nearest 0 1
  else if 330 < d.point then Double.nearest (10 ^ (330 : Nat)) 1
  else if 0 ≤ d.exponent then Double.nearest (d.significand * 10 ^ d.exponent.toNat) 1
  else Double.nearest d.significand (10 ^ (-d.exponent).toNat)

/-- The double nearest to a decimal with a sign. -/
def toSignedFloat (negative : Bool) (d : Decimal) : Float :=
  if negative then -d.toFloat else d.toFloat

/-- Zeros at the end of the significand, at most `fuel`, go into the exponent. -/
def stripZeros : (fuel : Nat) → Decimal → Decimal
  | 0, d => d
  | fuel + 1, d =>
      if d.significand % 10 = 0 then stripZeros fuel ⟨d.significand / 10, d.exponent + 1⟩ else d

end Decimal

end JsonRules
