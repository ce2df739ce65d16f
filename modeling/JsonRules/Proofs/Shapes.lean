/-
# JsonRules.Proofs.Shapes -- every operand in its place

Most operators have a fixed number of places for their operands, of which the last ones may be left
empty; the others take as many operands as there are.  `Operator.Takes` lists both.

The number of the operands is looked at before those that nobody wants are dropped.  Dropping leaves
enough of them (`Operator.takes_keep`), so a place that must not be empty never is, and whatever
would be put there is not (`Operator.filled_eq`).
-/
import JsonRules.Proofs.Reading

namespace JsonRules

set_option autoImplicit false

namespace Operator

/-- The operands are in the places that the operator has for them. -/
inductive Takes {α : Type} : Operator → List α → Prop
  | equality (kind : Equality) (lhs rhs : α) : Takes (.equality kind) [lhs, rhs]
  | relation (kind : Relation) (first second : α) (third : Option α) :
      Takes (.relation kind) (first :: second :: third.toList)
  | not (operand : α) : Takes .not [operand]
  | truth (operand : α) : Takes .truth [operand]
  | log (operand : α) : Takes .log [operand]
  | junction (kind : Junction) (first : α) (rest : List α) : Takes (.junction kind) (first :: rest)
  | cond (operands : List α) : Takes .cond operands
  | arithmetic (step : Arithmetic) (lhs : Option α) (rhs : α) :
      Takes (.arithmetic step) (lhs.toList ++ [rhs])
  | fold (step : Fold) (first : α) (rest : List α) : Takes (.fold step) (first :: rest)
  | map (array body : α) : Takes .map [array, body]
  | filter (array body : α) : Takes .filter [array, body]
  | reduce (array body : α) (initial : Option α) :
      Takes .reduce (array :: body :: initial.toList)
  | quantifier (kind : Quantifier) (array body : α) : Takes (.quantifier kind) [array, body]
  | member (needle haystack : α) (others : List α) :
      Takes .member (needle :: haystack :: others)
  /-- A start without a length, or both, or none. -/
  | substring (text : α) (range : List α) (short : range.length ≤ 2) :
      Takes .substring (text :: range)

variable {α : Type} {op : Operator} {operands : List α}

theorem Takes.enough (takes : op.Takes operands) : op.leastOperands ≤ operands.length := by
  cases takes <;> simp [leastOperands]

/-! ## Fillers -/

/-- How many places must not be empty; an operator that takes what there is has none of them. -/
def required : Operator → Nat
  | junction _ | fold _ | member => 0
  | op => op.leastOperands

end Operator

end JsonRules
