/-
# JsonRules.Libraries -- what the program is put together with

Two things are left to libraries: how the numbers of a JSON text become doubles, and regular
expressions.  Everything else is stated for any such library.  Here the program gets its own: a
number is read in steps and is not always the nearest double, and a text that is no pattern is
refused without a reason.
-/
import JsonRules.Json.Numeral
import JsonRules.Regex.Engine

namespace JsonRules

set_option autoImplicit false

instance : Json.Rounding := ⟨Json.Numeral.inSteps⟩

instance : PatternEngine := Regex.engine fun _ => ""

end JsonRules
