/-
# JsonRules.Value.Printer -- values as JSON text

Results and log lines are written in this form.  A double always shows that it is one,
and one without a JSON spelling is written as null.  Every control character of a string
or a key is escaped, so a compact text is a single line.
-/
import JsonRules.Decimal.Layout
import JsonRules.Doc.Printer
import JsonRules.Text.Quote
import JsonRules.Value

namespace JsonRules

set_option autoImplicit false

namespace Scalar

/-- Doubles are positional from 0.0001 up to below ten to the sixteenth, a positive exponent has no
sign, and a tie goes up. -/
def doubleLayout : Decimal.Layout := ⟨some (-3, 16), true, false, .up⟩

/-- What stands for a character in a string. -/
def escape (c : Char) : List Char :=
  match c with
  | '"' => ['\\', '"']
  | '\\' => ['\\', '\\']
  | '\n' => ['\\', 'n']
  | '\r' => ['\\', 'r']
  | '\t' => ['\\', 't']
  | c =>
      if c.toNat < 0x20 || (0x7f ≤ c.toNat && c.toNat < 0xa0) then Text.fourDigitEscape c else [c]

def jsonText : Scalar → List Char
  | null => "null".toList
  | bool value => if value then "true".toList else "false".toList
  | int value => Decimal.integerText value.toInt
  | uint value => Decimal.integerText value.toNat
  | double value => if value.isFinite then doubleLayout.render value else "null".toList
  | string value => Text.quote escape value

end Scalar

namespace Value

/-- How the leaves of a value are spelled in JSON text. -/
def spelling : Doc.Spelling Scalar := ⟨Scalar.jsonText, Text.quote Scalar.escape⟩

/-- The compact JSON text of a value. -/
def compact (value : Value) : String := String.ofList (value.write spelling .compact 0)

/-- The JSON text of a value with one element a line. -/
def pretty (value : Value) : String := String.ofList (value.write spelling .indented 0)

end Value

end JsonRules
