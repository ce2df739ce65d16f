/-
# JsonRules.Decimal.Shortest -- the fewest digits that read back

A double is written with the fewest digits whose nearest double it is, and among
those with the digits nearest to its exact value.  With `n` digits only two decimals
can qualify, the two neighbours of the value on the grid of `n`-digit decimals, so
the search goes through the grids from coarse to fine and takes the first that holds
a neighbour which reads back.  Seventeen digits always do.
-/
import JsonRules.Decimal

namespace JsonRules.Decimal

set_option autoImplicit false

-- Powers are the built-in ones, also where Mathlib is imported.
attribute [local instance (high)] instPowNat

/-- What to write when the value lies halfway between two candidates. -/
inductive Tie where
  | up
  | even
  deriving DecidableEq, Repr

/-- A positive rational number. -/
structure Ratio where
  num : Nat
  den : Nat

namespace Ratio

/-- The magnitude of a double's exact value. -/
def ofExact (v : Double.Exact) : Ratio :=
  if 0 ≤ v.exponent then ⟨v.mantissa * 2 ^ v.exponent.toNat, 1⟩
  else ⟨v.mantissa, 2 ^ (-v.exponent).toNat⟩

/-- Multiplies by a power of ten. -/
def scale (r : Ratio) (power : Int) : Ratio :=
  if 0 ≤ power then ⟨r.num * 10 ^ power.toNat, r.den⟩ else ⟨r.num, r.den * 10 ^ (-power).toNat⟩

/-- The power of ten above the ratio: it is below `10 ^ point` and not below
`10 ^ (point - 1)`. -/
def point (r : Ratio) : Int :=
  if r.den ≤ r.num then (Nat.toDigits 10 (r.num / r.den)).length
  else 1 - (Nat.toDigits 10 ((r.den + r.num - 1) / r.num - 1)).length

end Ratio

/-- Of the two neighbours of `value` on the grid of `digits`-digit decimals, the one to
write: the only one that reads back as `x`, or the nearer one if both do.  The value is below
`10 ^ point`, and not below a tenth of that. -/
def neighbour? (tie : Tie) (x : Float) (value : Ratio) (point : Int) (digits : Nat) :
    Option Decimal :=
  let exponent := point - digits
  let scaled := value.scale (-exponent)
  let low : Decimal := ⟨scaled.num / scaled.den, exponent⟩
  let high : Decimal := ⟨scaled.num / scaled.den + 1, exponent⟩
  let rest := scaled.num % scaled.den
  let nearer :=
    if 2 * rest < scaled.den then low
    else if scaled.den < 2 * rest then high
    else match tie with
      | .up => high
      | .even => if low.significand % 2 = 0 then low else high
  match decide (low.toFloat = x), decide (high.toFloat = x) with
  | true, true => some nearer
  | true, false => some low
  | false, true => some high
  | false, false => none

/-- The decimal of fewest digits that reads back as the magnitude of `x`; zero for a
NaN and for the infinities, which have no digits. -/
def shortest (tie : Tie) (x : Float) : Decimal :=
  match Double.Exact.ofFloat? x with
  | none => ⟨0, 0⟩
  | some v =>
      if v.mantissa = 0 then ⟨0, 0⟩
      else
        let value := Ratio.ofExact v
        match (List.range' 1 17).findSome? (neighbour? tie x.abs value value.point) with
        | none => ⟨0, 0⟩
        | some d => d.stripZeros 17

end JsonRules.Decimal
