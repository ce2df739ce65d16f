/-
# JsonRules.Json.Numeral -- the numbers that JSON texts write

A number is written by digits with a sign, a fraction and an exponent.  Without a fraction and
an exponent it is an integer, if a word holds it; any other number is a double, and which one is
the business of the library that reads the text (`Json.Rounding`).  All that is asked of the
library is in the hypotheses of what is proved.  The one that the program is put together with has
the double that is reached in a few rounded steps (`Numeral.inSteps`).
-/
import JsonRules.Decimal
import JsonRules.Json

namespace JsonRules.Json

set_option autoImplicit false

-- Powers are the built-in ones, also where Mathlib is imported.
attribute [local instance (high)] instPowNat

/-- The text of a number, taken apart; the fraction is empty where there is no point. -/
structure Numeral where
  negative : Bool
  whole : List Char
  fraction : List Char
  exponent : Option Int

/-- How numbers that are not integers are read. -/
class Rounding where
  toDouble : Numeral → Float

namespace Numeral

/-- The integer that is written, if it is one and a word holds it; minus zero is none. -/
def integer? (n : Numeral) : Option Number :=
  if !n.fraction.isEmpty || n.exponent.isSome || n.negative && n.whole = ['0'] then none
  else
    let magnitude : Int := Decimal.ofDigits n.whole
    Number.ofInt? (if n.negative then -magnitude else magnitude)

/-- The number that is written, unless it is too large for a double. -/
def value? [Rounding] (n : Numeral) : Option Number :=
  n.integer?.or (Number.ofFloat? (Rounding.toDouble n))

/-! ## Powers of ten in steps

A reader of numbers need not look for the nearest double.  This one keeps the digits that an
unsigned word has room for, and multiplies the word by a power of ten or divides it by one.  The
word, the power and the result are rounded each for itself, so what comes out is now and then the
neighbour of the nearest double. -/

/-- Puts digits behind a significand as long as a word holds it, and gives the digits that are left
over, too. -/
def takeDigits : (significand : Nat) → List Char → Nat × List Char
  | significand, [] => (significand, [])
  | significand, c :: rest =>
      let next := 10 * significand + Decimal.digitValue c
      if next < UInt64.size then takeDigits next rest else (significand, c :: rest)

/-- The double next to a power of ten. -/
def power (exponent : Nat) : Float := Double.nearest (10 ^ exponent) 1

/-- A significand times a power of ten.  A power beyond 308 is no double: a number as large as that is
infinite, and one as small takes two divisions.  What would take a third one is zero. -/
def scale (significand : Nat) (exponent : Int) : Float :=
  let x := Double.nearest significand 1
  if significand = 0 then x
  else if 308 < exponent then power 309
  else if 0 ≤ exponent then x * power exponent.toNat
  else if -308 ≤ exponent then x / power (-exponent).toNat
  else if -616 ≤ exponent then x / power 308 / power (-exponent - 308).toNat
  else 0

/-- The double that is reached in these steps. -/
def inSteps (n : Numeral) : Float :=
  let (significand, left) := takeDigits 0 n.whole
  let (significand, ignored) := takeDigits significand n.fraction
  let behind : Int := n.fraction.length - ignored.length
  let magnitude := scale significand (left.length - behind + n.exponent.getD 0)
  if n.negative then -magnitude else magnitude

end Numeral

end JsonRules.Json
