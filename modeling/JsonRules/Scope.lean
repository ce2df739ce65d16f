/-
# JsonRules.Scope -- where the variables of an expression are looked up

Outside the bodies of array operators variables belong to the host, which sees every
look-up.  Inside a body they are paths into a record that the operator makes, and the host
is not asked.
-/
import JsonRules.Host
import JsonRules.Run

namespace JsonRules

set_option autoImplicit false

inductive Scope where
  | host (host : Host)
  | element (record : Value)

namespace Scope

/-- The value of a variable; one that is not there is null. -/
def lookup {m : Type → Type} [Monad m] [Emits m] : Scope → String → Option Nat → m Value
  | .host answer, name, slot => do
      Emits.emit (.lookup name slot)
      return (answer name slot).getD .null
  | .element record, name, _ => return (Path.resolve? record name).getD .null

/-- What the body of a reduction sees. -/
def reduction (accumulator current : Value) : Scope :=
  .element (.object [("accumulator", accumulator), ("current", current)])

end Scope

end JsonRules
