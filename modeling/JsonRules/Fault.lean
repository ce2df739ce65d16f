/-
# JsonRules.Fault -- what stops an evaluation

An evaluation stops for one of five reasons.  A reason keeps the operator and the values
it is about; its wording is `Fault.message`.
-/
import JsonRules.Decimal
import JsonRules.Operator
import JsonRules.Pattern
import JsonRules.Text.Display
import JsonRules.Value

namespace JsonRules

set_option autoImplicit false

inductive Fault where
  /-- The operator is not defined for operands of these kinds. -/
  | type (op : Operator) (kinds : List Kind)
  /-- The text is no number of the kind that is wanted. -/
  | coercion (text : String) (target : Kind)
  /-- A negative integer meets an unsigned one that no signed word holds. -/
  | range (op : Operator) (negative : Int64)
  /-- A pattern that was computed is not valid. -/
  | regex (error : PatternError)
  /-- The operator has fewer operands than it needs. -/
  | arity (op : Operator) (found : Nat)
  deriving DecidableEq

/-- The words for a fault. -/
def Fault.message : Fault → String
  | type op kinds =>
      "type error: \"" ++ op.name ++ "\" is not defined for "
        ++ " and ".intercalate (kinds.map Kind.name)
  | coercion text target => "cannot convert " ++ Text.display text ++ " to " ++ target.name
  | range op negative =>
      "\"" ++ op.name ++ "\": unable to consolidate negative int "
        ++ String.ofList (Decimal.integerText negative.toInt) ++ " with uint above i64::MAX"
  | regex error => error.message
  | arity op found =>
      "\"" ++ op.name ++ "\" expects at least " ++ toString op.leastOperands
        ++ " operand(s), found " ++ toString found

end JsonRules
