/-
# JsonRules.Evaluation -- what expressions mean

The meaning of an expression is put together from the meanings of its children, so
evaluation is a recursion over the tree and always ends.
-/
import JsonRules.Expr
import JsonRules.Meaning

namespace JsonRules.Expr

set_option autoImplicit false

variable [PatternEngine]

mutual

/-- The meaning of an expression. -/
def eval : Expr → Meaning
  | literal value => fun _ => return value
  | array items => fun scope => return .array (← Meaning.each (evalEach items) scope)
  | var name slot => Meaning.var name.eval slot
  | regex pattern subject compiled => Meaning.matching pattern.eval subject.eval compiled
  | call op operands => Meaning.ofOperator op (evalEach operands)

def evalEach : List Expr → List Meaning
  | [] => []
  | e :: rest => e.eval :: evalEach rest

end

theorem evalEach_eq (operands : List Expr) : evalEach operands = operands.map eval := by
  induction operands with
  | nil => rfl
  | cons e rest ih => simp [evalEach, ih]

end JsonRules.Expr
