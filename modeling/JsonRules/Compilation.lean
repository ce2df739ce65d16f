/-
# JsonRules.Compilation -- from JSON to a rule

In the JSON form of a rule an object with a single key applies the operator that the key
names, an array is an array of rules, and anything else is a literal.  Reading such a form
keeps a table of the variables that are named by a literal: a name gets the next slot where
it is met first, and keeps it.

A form is read from left to right, operands before their operator is put together, and the
first part that is no rule stops the reading.  The names found up to there stay in the
table (`Compilation` keeps its state when it fails).
-/
import JsonRules.Expr
import JsonRules.Json.Error
import JsonRules.Node

namespace JsonRules

set_option autoImplicit false

/-- Why a text or a JSON form is no rule. -/
inductive CompilationError where
  | unknownOperator (name : String)
  /-- An object that applies an operator has exactly one key. -/
  | keyCount (found : Nat)
  | invalidPattern (error : PatternError)
  | notJson (error : Json.ReadError)
  deriving DecidableEq

/-- The words for an error. -/
def CompilationError.message : CompilationError → String
  | unknownOperator name => "unknown operator \"" ++ name ++ "\""
  | keyCount found => "operator object must have exactly one key, found " ++ toString found
  | invalidPattern error => error.message
  | notJson error => "invalid rule JSON: " ++ error.message

/-- The variables that rules name by a literal, each in its slot, and whether some variable has a
name that is computed.  The slots are also kept by name, so that a name which is used again is found
without a search. -/
structure NameTable where
  names : List String := []
  slots : Entries Nat := []
  hasComputed : Bool := false
  deriving DecidableEq

namespace NameTable

/-- The slot of a name. -/
def slot? (table : NameTable) (name : String) : Option Nat := table.names.idxOf? name

/-- Gives the next slot to a name. -/
def add (table : NameTable) (name : String) : NameTable :=
  { table with
    names := table.names ++ [name]
    slots := Entries.insert name table.names.length table.slots }

end NameTable

/-- Reading with a table of names, which is kept when the reading fails. -/
abbrev Compilation := EStateM CompilationError NameTable

namespace Compilation

variable [PatternEngine]

/-- The slot of a literal name, a new one if the name is new. -/
def slotOf (name : String) : Compilation Nat := do
  let table ← get
  match Entries.get? name table.slots with
  | some slot => return slot
  | none =>
      set (table.add name)
      return table.names.length

/-- The slot of a variable.  The empty name and null stand for the whole record and have none; any
other name that is not a literal string is computed. -/
def register : Expr → Compilation (Option Nat)
  | .literal .null => return none
  | .literal (.string name) => do
      if name.isEmpty then return none else return some (← slotOf name)
  | _ => do
      modify fun table => { table with hasComputed := true }
      return none

/-- The pattern of a text. -/
def compilePattern (text : String) : Compilation Pattern :=
  match Pattern.compile text with
  | .ok pattern => return pattern
  | .error error => throw (.invalidPattern error)

/-- Takes a node into a rule: a variable gets its slot, and a pattern that is a literal is compiled. -/
def ofNode : Node Expr → Compilation Expr
  | .var name => return .var name (← register name)
  | .regex pattern subject =>
      match pattern with
      | .literal (.string text) => return .regex pattern subject (some (← compilePattern text))
      | _ => return .regex pattern subject none
  | node => return .call node.operator node.children

/-- Puts an operator together with its operands.  Where it has fewer than it needs there is a node
all the same, since only evaluating it is a fault. -/
def build (op : Operator) (operands : List Expr) : Compilation Expr :=
  ofNode (.ofOperands (.literal .null) (.literal (.string "")) op operands)

/-- The operator that a key names. -/
def operator (key : String) : Compilation Operator :=
  match Operator.ofName? key with
  | some op => return op
  | none => throw (.unknownOperator key)

mutual

/-- Reads the JSON form of a rule. -/
def ofJson : Json → Compilation Expr
  | .scalar value => return .literal (.scalar (Scalar.ofJson value))
  | .array items => return .array (← ofJsonEach items)
  | .object [(key, .array items)] => do
      let op ← operator key
      build op (← ofJsonEach items)
  | .object [(key, operand)] => do
      let op ← operator key
      build op [← ofJson operand]
  | .object entries => throw (.keyCount entries.length)

def ofJsonEach : List Json → Compilation (List Expr)
  | [] => return []
  | item :: rest => do
      let e ← ofJson item
      return e :: (← ofJsonEach rest)

end

end Compilation

end JsonRules
