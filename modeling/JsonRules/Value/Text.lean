/-
# JsonRules.Value.Text -- the plain text of a value

Strings are joined, searched and matched in this form.  Numbers are written without an
exponent and without a needless fraction; arrays and objects have no plain text.
-/
import JsonRules.Decimal.Layout
import JsonRules.Value

namespace JsonRules

set_option autoImplicit false

namespace Scalar

/-- In plain text a double never has an exponent and a whole number no fraction. -/
def plainLayout : Decimal.Layout := ⟨none, false, false, .up⟩

/-- The plain text of a scalar: a string stands for itself. -/
def text : Scalar → String
  | null => "null"
  | bool value => if value then "true" else "false"
  | int value => String.ofList (Decimal.integerText value.toInt)
  | uint value => String.ofList (Decimal.integerText value.toNat)
  | double value => String.ofList (plainLayout.render value)
  | string value => value

end Scalar

namespace Value

/-- The plain text of a value that has one. -/
def text? : Value → Option String
  | .scalar value => some value.text
  | .array _ | .object _ => none

end Value

end JsonRules
