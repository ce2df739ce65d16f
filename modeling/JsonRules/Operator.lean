/-
# JsonRules.Operator -- the operators a rule can name

Operators that differ only in one step are one family with a parameter.  Each operator has
a name, a least number of operands, and a cap beyond which operands are ignored; `all`
lists them in the order in which they are shown to users, every operator once
(`mem_all`, `nodup_all`), and a name belongs to at most one (`ofName?_name`).
-/
import JsonRules.Text.Pad

namespace JsonRules

set_option autoImplicit false

/-- How two values are tested for equality: after bringing them to one kind or strictly, and
whether the answer is turned around. -/
inductive Equality where
  | loose
  | strict
  | looseNot
  | strictNot
  deriving DecidableEq, Repr

/-- The order relations. -/
inductive Relation where
  | less
  | lessEq
  | greater
  | greaterEq
  deriving DecidableEq, Repr

/-- Arithmetic on two operands, the left of which may be left out. -/
inductive Arithmetic where
  | minus
  | divide
  | remainder
  deriving DecidableEq, Repr

/-- What joins any number of operands from left to right. -/
inductive Fold where
  | sum
  | product
  | least
  | greatest
  | concat
  | merge
  deriving DecidableEq, Repr

/-- What goes through its operands until one decides. -/
inductive Junction where
  | conj
  | disj
  deriving DecidableEq, Repr

/-- What asks how many elements of an array satisfy a predicate. -/
inductive Quantifier where
  | all
  | none
  | some
  deriving DecidableEq, Repr

inductive Operator where
  | equality (test : Equality)
  | relation (test : Relation)
  | not
  | truth
  | log
  | junction (kind : Junction)
  | cond
  | arithmetic (step : Arithmetic)
  | fold (step : Fold)
  | map
  | filter
  | reduce
  | quantifier (kind : Quantifier)
  | member
  | substring
  | var
  | regex
  deriving DecidableEq, Repr

namespace Operator

/-- All operators, in the order of the table that users see. -/
def all : List Operator :=
  [equality .loose, equality .strict, equality .looseNot, equality .strictNot,
   cond, not, truth, junction .disj, junction .conj,
   relation .greater, relation .greaterEq, relation .less, relation .lessEq,
   fold .greatest, fold .least, fold .sum, arithmetic .minus, fold .product,
   arithmetic .divide, arithmetic .remainder,
   map, reduce, filter, quantifier .all, quantifier .none, quantifier .some,
   fold .merge, member, fold .concat, substring, log, var, regex]

/-- The key that names the operator in a rule. -/
def name : Operator → String
  | equality .loose => "=="
  | equality .strict => "==="
  | equality .looseNot => "!="
  | equality .strictNot => "!=="
  | relation .less => "<"
  | relation .lessEq => "<="
  | relation .greater => ">"
  | relation .greaterEq => ">="
  | not => "!"
  | truth => "!!"
  | log => "log"
  | junction .conj => "and"
  | junction .disj => "or"
  | cond => "if"
  | arithmetic .minus => "-"
  | arithmetic .divide => "/"
  | arithmetic .remainder => "%"
  | fold .sum => "+"
  | fold .product => "*"
  | fold .least => "min"
  | fold .greatest => "max"
  | fold .concat => "cat"
  | fold .merge => "merge"
  | map => "map"
  | filter => "filter"
  | reduce => "reduce"
  | quantifier .all => "all"
  | quantifier .none => "none"
  | quantifier .some => "some"
  | member => "in"
  | substring => "substr"
  | var => "var"
  | regex => "regex"

/-- The operator of a name. -/
def ofName? (name : String) : Option Operator := all.find? fun op => op.name == name

/-- The fewest operands with which the operator can be evaluated. -/
def leastOperands : Operator → Nat
  | var | cond => 0
  | not | truth | log | arithmetic _ | substring | junction _ | fold _ => 1
  | equality _ | relation _ | member | regex | map | filter | reduce | quantifier _ => 2

/-- The most operands that the operator takes notice of; `none` where there is no limit. -/
def cap : Operator → Option Nat
  | not | truth | var | log => some 1
  | equality _ | arithmetic _ | map | filter | regex => some 2
  | relation _ | reduce | quantifier _ | substring => some 3
  | junction _ | cond | fold _ | member => none

/-- The operands within the cap. -/
def capped {α : Type} (op : Operator) (operands : List α) : List α :=
  match op.cap with
  | some cap => operands.take cap
  | none => operands

theorem mem_all (op : Operator) : op ∈ all := by
  rcases op with ⟨_ | _⟩ | ⟨_ | _⟩ | _ | _ | _ | ⟨_ | _⟩ | _ | ⟨_ | _⟩ | ⟨_ | _⟩ | _ | _ | _
    | ⟨_ | _⟩ | _ | _ | _ | _ <;> decide

theorem nodup_all : all.Nodup := by decide

theorem nodup_names : (all.map name).Nodup := by decide

theorem ofName?_name (op : Operator) : ofName? op.name = some op := by
  rcases op with ⟨_ | _⟩ | ⟨_ | _⟩ | _ | _ | _ | ⟨_ | _⟩ | _ | ⟨_ | _⟩ | ⟨_ | _⟩ | _ | _ | _
    | ⟨_ | _⟩ | _ | _ | _ | _ <;> decide

/-! ## The table of operators -/

/-- The line of an operator: its name, the fewest operands, and the cap. -/
def row (op : Operator) : String :=
  let cap := match op.cap with
    | some cap => toString cap
    | none => "-"
  Text.padRight 8 op.name ++ "  " ++ Text.padLeft 3 (toString op.leastOperands) ++ "  "
    ++ Text.padLeft 3 cap ++ "\n"

/-- The table of all operators, a line each under a heading. -/
def table : String := "OPERATOR  MIN  CAP\n" ++ String.join (all.map row)

end Operator

end JsonRules
