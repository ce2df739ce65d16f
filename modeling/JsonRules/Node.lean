/-
# JsonRules.Node -- operators with their operands in place

The operators of a family share one kind of node.  A node has a place for each operand that it
needs, a place that may stay empty for each one that may be left out, or a list for operands of any
number.  It is filled with the operands in turn: those that are needed come first
(`Operands.required`), then those that may be left out (`Operands.optional`), or whatever is left
(`Operands.rest`).  What finds no place is dropped.

With too few operands a node is incomplete and keeps them as they are.
-/
import JsonRules.Operator

namespace JsonRules

set_option autoImplicit false

/-! ## Operands -/

/-- Takes operands in turn. -/
abbrev Operands (α : Type) := StateM (List α)

namespace Operands

variable {α : Type}

/-- An operand that has to be there; the filler stands in for one that is not. -/
def required (filler : α) : Operands α α :=
  modifyGet fun operands => (operands.head?.getD filler, operands.tail)

/-- An operand that may be left out. -/
def optional : Operands α (Option α) := modifyGet fun operands => (operands.head?, operands.tail)

/-- All operands that are left. -/
def rest : Operands α (List α) := modifyGet fun operands => (operands, [])

end Operands

/-! ## Nodes -/

/-- An operator with its operands. -/
inductive Node (α : Type) where
  | equality (test : Equality) (lhs rhs : α)
  | relation (test : Relation) (first second : α) (third : Option α)
  | not (operand : α)
  | truth (operand : α)
  | log (operand : α)
  | junction (kind : Junction) (operands : List α)
  | cond (operands : List α)
  | arithmetic (step : Arithmetic) (lhs : Option α) (rhs : α)
  | fold (step : Fold) (operands : List α)
  | map (array body : α)
  | filter (array body : α)
  | reduce (array body : α) (initial : Option α)
  | quantifier (kind : Quantifier) (array predicate : α)
  | member (operands : List α)
  | substring (text : α) (start length : Option α)
  | var (name : α)
  | regex (pattern subject : α)
  /-- An operator with fewer operands than it needs. -/
  | incomplete (op : Operator) (operands : List α)

namespace Node

variable {α : Type}

def operator : Node α → Operator
  | equality test _ _ => .equality test
  | relation test _ _ _ => .relation test
  | not _ => .not
  | truth _ => .truth
  | log _ => .log
  | junction kind _ => .junction kind
  | cond _ => .cond
  | arithmetic step _ _ => .arithmetic step
  | fold step _ => .fold step
  | map _ _ => .map
  | filter _ _ => .filter
  | reduce _ _ _ => .reduce
  | quantifier kind _ _ => .quantifier kind
  | member _ => .member
  | substring _ _ _ => .substring
  | var _ => .var
  | regex _ _ => .regex
  | incomplete op _ => op

/-- The operands of a node, in the order in which they are evaluated. -/
def children : Node α → List α
  | not operand | truth operand | log operand | var operand => [operand]
  | equality _ lhs rhs => [lhs, rhs]
  | relation _ first second third => [some first, some second, third].filterMap id
  | arithmetic _ lhs rhs => [lhs, some rhs].filterMap id
  | junction _ operands | cond operands | fold _ operands | member operands
  | incomplete _ operands => operands
  | map array body | filter array body | quantifier _ array body => [array, body]
  | reduce array body initial => [some array, some body, initial].filterMap id
  | substring text start length => [some text, start, length].filterMap id
  | regex pattern subject => [pattern, subject]

open Operands in
/-- Fills the node of an operator.  A variable without a name has the name `unnamed`, and a left
operand of arithmetic is left out before the right one is. -/
def fill (filler unnamed : α) : Operator → Operands α (Node α)
  | .equality test => return .equality test (← required filler) (← required filler)
  | .relation test => return .relation test (← required filler) (← required filler) (← optional)
  | .not => return .not (← required filler)
  | .truth => return .truth (← required filler)
  | .log => return .log (← required filler)
  | .junction kind => return .junction kind (← rest)
  | .cond => return .cond (← rest)
  | .arithmetic step => do
      let first ← required filler
      match ← optional with
      | some second => return .arithmetic step (some first) second
      | none => return .arithmetic step none first
  | .fold step => return .fold step (← rest)
  | .map => return .map (← required filler) (← required filler)
  | .filter => return .filter (← required filler) (← required filler)
  | .reduce => return .reduce (← required filler) (← required filler) (← optional)
  | .quantifier kind => return .quantifier kind (← required filler) (← required filler)
  | .member => return .member (← rest)
  | .substring => return .substring (← required filler) (← optional) (← optional)
  | .var => return .var ((← optional).getD unnamed)
  | .regex => return .regex (← required filler) (← required filler)

/-- The node of an operator with operands, of which those beyond the cap are dropped first. -/
def ofOperands (filler unnamed : α) (op : Operator) (operands : List α) : Node α :=
  if operands.length < op.leastOperands then .incomplete op operands
  else ((fill filler unnamed op).run (op.capped operands)).1

end Node

end JsonRules
