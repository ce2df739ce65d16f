/-
# JsonRules.Decimal.Layout -- where digits, point and exponent go

The digits of a double are fixed by `Decimal.shortest`; what is left to choose is
one record per kind of output: which magnitudes are written positionally, whether
a whole number keeps `.0`, whether a positive exponent has a sign, and which way a
tie between two candidates goes.
-/
import JsonRules.Decimal.Shortest

namespace JsonRules.Decimal

set_option autoImplicit false

/-- How a kind of output writes its doubles. -/
structure Layout where
  /-- The least and the greatest `point` written without an exponent; `none` where an
  exponent is never written. -/
  positional : Option (Int × Int)
  /-- A whole number written positionally ends in `.0`. -/
  keepsFraction : Bool
  /-- A positive exponent is written with `+`. -/
  plus : Bool
  tie : Tie
  deriving DecidableEq, Repr

namespace Layout

/-- The digits with a point in them, or zeros up to it. -/
def positionalText (layout : Layout) (digits : List Char) (point : Int) : List Char :=
  if point ≤ 0 then
    '0' :: '.' :: (List.replicate (-point).toNat '0' ++ digits)
  else if point < digits.length then
    digits.take point.toNat ++ '.' :: digits.drop point.toNat
  else
    digits ++ List.replicate (point - digits.length).toNat '0'
      ++ (if layout.keepsFraction then ['.', '0'] else [])

/-- One digit before the point, the others behind it, and the exponent. -/
def exponentText (layout : Layout) (digits : List Char) (point : Int) : List Char :=
  let fraction := digits.drop 1
  let exponent := point - 1
  digits.take 1 ++ (if fraction.isEmpty then [] else '.' :: fraction)
    ++ 'e' :: (if exponent < 0 then ['-'] else if layout.plus then ['+'] else [])
    ++ Nat.toDigits 10 exponent.natAbs

/-- The text of a magnitude. -/
def decimalText (layout : Layout) (d : Decimal) : List Char :=
  let digits := Nat.toDigits 10 d.significand
  match layout.positional with
  | none => layout.positionalText digits d.point
  | some (least, greatest) =>
      if least ≤ d.point && d.point ≤ greatest then layout.positionalText digits d.point
      else layout.exponentText digits d.point

/-- The text of a double, with the usual words for those that have no digits. -/
def render (layout : Layout) (x : Float) : List Char :=
  if x.isNaN then "NaN".toList
  else
    (if Double.isNegative x then ['-'] else [])
      ++ (if x.isInf then "inf".toList else layout.decimalText (shortest layout.tie x))

end Layout

end JsonRules.Decimal
