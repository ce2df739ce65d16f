/-
# JsonRules.Text.Numeral -- numbers written in a text

White space around a number is dropped.  An integer is a run of digits with an optional
sign; where only unsigned numbers are meant, a minus sign is none.  Other numbers have a
fraction, an exponent or both, with digits on at least one side of the point; their value
is the nearest double, which has to be finite.

An integer that is wanted may be written as such another number, and its fraction is then
cut off (`int?`, `uint?`).  Where any number will do, the narrowest kind that holds it is
taken (`number?`).
-/
import JsonRules.Decimal
import JsonRules.Double
import JsonRules.Text.Blank
import JsonRules.Value

namespace JsonRules.Text.Numeral

set_option autoImplicit false

/-- Takes a sign in front; the first part tells whether it is a minus sign. -/
def sign : List Char → Bool × List Char
  | '+' :: rest => (false, rest)
  | '-' :: rest => (true, rest)
  | s => (false, s)

/-- The number that a text of digits, and of nothing else, writes. -/
def digits? (s : List Char) : Option Nat :=
  if !s.isEmpty && s.all Char.isDigit then some (Decimal.ofDigits s) else none

/-- The integer that a text writes. -/
def integer? (s : List Char) : Option Int :=
  let (negative, s) := sign s
  (digits? s).map fun n => if negative then -(n : Int) else n

/-- The integer that a text writes without a minus sign. -/
def unsigned? (s : List Char) : Option Nat :=
  match s with
  | '+' :: rest => digits? rest
  | _ => digits? s

/-- The exponent behind the digits of a number: zero where nothing is behind them. -/
def exponent? : List Char → Option Int
  | [] => some 0
  | c :: rest => if c = 'e' || c = 'E' then integer? rest else none

/-- The magnitude that a text without a sign writes. -/
def decimal? (s : List Char) : Option Decimal :=
  let whole := s.takeWhile Char.isDigit
  let (fraction, behind) :=
    match s.dropWhile Char.isDigit with
    | '.' :: rest => (rest.takeWhile Char.isDigit, rest.dropWhile Char.isDigit)
    | rest => ([], rest)
  if whole.isEmpty && fraction.isEmpty then none
  else (exponent? behind).map (.ofParts whole fraction)

/-- The finite double nearest to the number that a text writes. -/
def double? (text : String) : Option Float :=
  let (negative, s) := sign (trim text.toList)
  (decimal? s).bind fun d =>
    let x := d.toSignedFloat negative
    if x.isFinite then some x else none

/-- The double that a text writes, with its fraction cut off. -/
def truncated? (text : String) : Option Int := (double? text).bind Double.truncate?

/-- The signed integer that a text writes, if a word holds it. -/
def int? (text : String) : Option Int64 :=
  ((integer? (trim text.toList)).bind Word.int?).or ((truncated? text).bind Word.int?)

/-- The unsigned integer that a text writes, if a word holds it. -/
def uint? (text : String) : Option UInt64 :=
  ((unsigned? (trim text.toList)).bind fun n => Word.uint? n).or
    ((truncated? text).bind Word.uint?)

/-- The number that a text writes: a signed integer if one is equal to it, an unsigned one if it is
written as an integer, else a double. -/
def number? (text : String) : Option Scalar :=
  (((integer? (trim text.toList)).bind Word.int?).map Scalar.int).or <|
    (((unsigned? (trim text.toList)).bind fun n => Word.uint? n).map Scalar.uint).or <|
      (double? text).map fun x =>
        match (Double.whole? x).bind Word.int? with
        | some n => .int n
        | none => .double x

end JsonRules.Text.Numeral
