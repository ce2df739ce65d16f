/-
# JsonRules.Json.Printer -- the compact text of a JSON document

This is the text in which a rule is written back.  A double always shows that it is
one, by a fraction or an exponent; the short escapes of JSON are used where there is
one, and characters from U+0020 on are written as they are.
-/
import JsonRules.Decimal.Layout
import JsonRules.Doc.Printer
import JsonRules.Json
import JsonRules.Text.Quote

namespace JsonRules.Json

set_option autoImplicit false

/-- Doubles are positional from 0.00001 up to below ten to the sixteenth, a positive exponent has
its sign, and a tie goes to the even digit. -/
def doubleLayout : Decimal.Layout := ⟨some (-4, 16), true, true, .even⟩

/-- What stands for a character in a string. -/
def escape (c : Char) : List Char :=
  match c with
  | '"' => ['\\', '"']
  | '\\' => ['\\', '\\']
  | '\x08' => ['\\', 'b']
  | '\x0c' => ['\\', 'f']
  | '\n' => ['\\', 'n']
  | '\r' => ['\\', 'r']
  | '\t' => ['\\', 't']
  | c => if c.toNat < 0x20 then Text.fourDigitEscape c else [c]

def Scalar.text : Scalar → List Char
  | .null => "null".toList
  | .bool value => if value then "true".toList else "false".toList
  | .number (.integer value _) => Decimal.integerText value
  | .number (.double value _) => doubleLayout.render value
  | .string value => Text.quote escape value

/-- The compact text of a document. -/
def render (json : Json) : String :=
  String.ofList (json.write ⟨Scalar.text, Text.quote escape⟩ .compact 0)

end JsonRules.Json
