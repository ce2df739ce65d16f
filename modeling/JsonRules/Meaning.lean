/-
# JsonRules.Meaning -- what the operators mean

The meaning of an expression is the run that it gives rise to in a scope.  The meaning of
an operator is defined on the meanings of its operands, so that it decides by itself which
of them run, how often, and in which scope:

* most operators run every operand once, from left to right;
* `junction`, `cond` and `relation` stop where the rest cannot matter;
* `map`, `filter`, `reduce` and `quantifier` run their body once for an element, in the
  scope of that element.

With fewer operands than an operator needs its meaning is a fault (`Meaning.short`), and no
operand runs.
-/
import JsonRules.Arithmetic
import JsonRules.Pattern
import JsonRules.Scope
import JsonRules.Text.Slice

namespace JsonRules

set_option autoImplicit false

-- Texts are searched by the built-in decision, also where Mathlib is imported.
attribute [local instance (high)] List.instDecidableIsInfixOfDecidableEq

/-- What an expression does in a scope: a run, or any computation in which events happen. -/
abbrev Meaning (m : Type → Type := Run) := Scope → m Value

namespace Meaning

variable {m : Type → Type} [Monad m] [MonadLift (Except Fault) m] [Emits m] [PatternEngine]

/-- An operator has too few operands. -/
def short (op : Operator) (found : Nat) : Meaning m := fun _ =>
  liftM (Except.error (.arity op found) : Except Fault Value)

/-- The values of all operands, from left to right. -/
def each (operands : List (Meaning m)) (scope : Scope) : m (List Value) :=
  operands.mapM fun operand => operand scope

/-- The truth of an operand of an operator. -/
def truth (op : Operator) (operand : Meaning m) (scope : Scope) : m Bool := do
  Coercion.toTruth op (← operand scope)

/-- The elements of an operand that is to be an array. -/
def elements (op : Operator) (operand : Meaning m) (scope : Scope) : m (List Value) := do
  Coercion.toElements op (← operand scope)

/-- The number of characters that an operand counts. -/
def count (op : Operator) (operand : Meaning m) (scope : Scope) : m Int64 := do
  Coercion.toCount op (← operand scope)

/-! ## Variables -/

/-- The name that a value gives to a variable. -/
def nameOf : Value → Except Fault String
  | .null => .ok ""
  | value => Coercion.toText .var value

/-- A variable whose name is worked out first. -/
def var (name : Meaning m) (slot : Option Nat) : Meaning m := fun scope => do
  let name ← nameOf (← name scope)
  scope.lookup name slot

/-! ## Tests -/

def log (operand : Meaning m) : Meaning m := fun scope => do
  let value ← operand scope
  Emits.emit (.log value)
  return value

def equality (kind : Equality) (lhs rhs : Meaning m) : Meaning m := fun scope => do
  let a ← lhs scope
  let b ← rhs scope
  return .bool (← kind.test a b)

/-- Two operands in relation; a third one counts, and runs, only if the first two are. -/
def relation (kind : Relation) (first second : Meaning m) (third : Option (Meaning m)) :
    Meaning m := fun scope => do
    let a ← first scope
    let b ← second scope
    let holds ← kind.test a b
    if holds then
      match third with
      | none => return .bool true
      | some third => do
          let c ← third scope
          return .bool (← kind.test b c)
    else return .bool false

/-- The truth of an operand that decides a junction. -/
def decisive : Junction → Bool
  | .conj => false
  | .disj => true

/-- Runs operands up to one that decides; the last value that was looked at is the result, and it
has to have a truth even if nothing hangs on it. -/
def junction (kind : Junction) : List (Meaning m) → Meaning m
  | [] => short (.junction kind) 0
  | operand :: rest => fun scope => do
      let value ← operand scope
      let truth ← Coercion.toTruth (.junction kind) value
      if truth == decisive kind || rest.isEmpty then return value else junction kind rest scope

/-- Conditions each followed by its branch, and at the end a branch for when none holds. -/
def cond : List (Meaning m) → Meaning m
  | condition :: branch :: rest => fun scope => do
      if ← truth .cond condition scope then branch scope else cond rest scope
  | [otherwise] => otherwise
  | [] => fun _ => return .null

/-! ## Arithmetic and folds -/

/-- The result of an operation on two values. -/
def combine : Arithmetic → Value → Value → Except Fault Value
  | .minus => Value.combine (.arithmetic .minus) NumberPair.difference
  | .divide => Value.combine (.arithmetic .divide) NumberPair.quotient
  | .remainder => Value.remainder

/-- An operation on two operands; a left one that is not there is zero. -/
def arithmetic (step : Arithmetic) (lhs : Option (Meaning m)) (rhs : Meaning m) :
    Meaning m := fun scope => do
    let a ← match lhs with
      | some lhs => lhs scope
      | none => pure (.int 0)
    let b ← rhs scope
    combine step a b

/-- What an operand of a fold is turned into before it is joined with others. -/
def convert : Fold → Value → Except Fault Value
  | .concat, value => (Coercion.toText (.fold .concat) value).map .string
  | .merge, .array items => .ok (.array items)
  | .merge, value => .ok (.array [value])
  | step, value => Coercion.toArithmetic (.fold step) value

/-- Joins what the operands so far have given with the next operand. -/
def join : Fold → Value → Value → Except Fault Value
  | .sum, a, b => Value.combine (.fold .sum) NumberPair.sum a b
  | .product, a, b => Value.combine (.fold .product) NumberPair.product a b
  | .least, a, b => Value.combine (.fold .least) NumberPair.least a b
  | .greatest, a, b => Value.combine (.fold .greatest) NumberPair.greatest a b
  | .concat, .string a, .string b => .ok (.string (a ++ b))
  | .merge, .array a, .array b => .ok (.array (a ++ b))
  | step, a, b => .error (Coercion.mismatch (.fold step) a b)

/-- The operand of a fold in a scope, converted. -/
def folded (step : Fold) (operand : Meaning m) (scope : Scope) : m Value := do
  convert step (← operand scope)

/-- Joins the operands from left to right. -/
def fold (step : Fold) : List (Meaning m) → Meaning m
  | [] => short (.fold step) 0
  | first :: rest => fun scope => do
      let start ← folded step first scope
      rest.foldlM (fun acc operand => do join step acc (← folded step operand scope)) start

/-! ## Texts -/

/-- The first value is in the second: a text in a text, or an element in an array. -/
def contains (needle : Value) : Value → Except Fault Bool
  | .string text => do
      let part ← Coercion.toText .member needle
      return decide (part.toList <:+: text.toList)
  | .array items => .ok (items.any (Coercion.strictEq needle))
  | .null => .ok false
  | haystack => .error (.type .member [haystack.kind])

/-- Runs every operand and looks for the first in the second. -/
def member (needle haystack : Meaning m) (others : List (Meaning m)) :
    Meaning m := fun scope => do
  let a ← needle scope
  let b ← haystack scope
  let _ ← each others scope
  return .bool (← contains a b)

/-- The number that an operand counts, if the operand is there. -/
def countIfAny (op : Operator) (operand : Option (Meaning m)) (scope : Scope) : m (Option Int64) :=
  match operand with
  | some operand => do return some (← count op operand scope)
  | none => return none

/-- A part of a text; without a start it begins with the text, and without a length it goes to the
end. -/
def substring (text : Meaning m) (start length : Option (Meaning m)) :
    Meaning m := fun scope => do
  let text ← Coercion.toText .substring (← text scope)
  let start ← countIfAny .substring start scope
  let length ← countIfAny .substring length scope
  return .string (String.ofList
    (Text.slice text.toList ((start.map Int64.toInt).getD 0) (length.map Int64.toInt)))

/-- The pattern that a value spells. -/
def patternOf (value : Value) : Except Fault Pattern := do
  let text ← Coercion.toText .regex value
  match Pattern.compile text with
  | .ok pattern => return pattern
  | .error error => throw (.regex error)

/-- A match of a pattern in a text.  The pattern is run even if it is compiled already, and a computed
one is compiled only after the text has run. -/
def matching (pattern subject : Meaning m) (compiled : Option Pattern) :
    Meaning m := fun scope => do
  let spelled ← pattern scope
  let text ← Coercion.toText .regex (← subject scope)
  let pattern ← match compiled with
    | some pattern => pure pattern
    | none => patternOf spelled
  return .bool (pattern.isMatch text)

/-! ## Array operators -/

/-- The truth of a body for an element. -/
def holds (op : Operator) (body : Meaning m) (element : Value) : m Bool :=
  truth op body (.element element)

/-- The elements for which a test holds. -/
def keepWhere (test : Value → m Bool) : List Value → m (List Value)
  | [] => return []
  | item :: rest => do
      let kept ← test item
      let others ← keepWhere test rest
      return if kept then item :: others else others

def map (array body : Meaning m) : Meaning m := fun scope => do
  let items ← elements .map array scope
  return .array (← items.mapM fun item => body (.element item))

def filter (array body : Meaning m) : Meaning m := fun scope => do
  let items ← elements .filter array scope
  return .array (← keepWhere (holds .filter body) items)

/-- The body takes what came out for the elements before, and an element; what it starts with runs
after the array. -/
def reduce (array body : Meaning m) (initial : Option (Meaning m)) :
    Meaning m := fun scope => do
  let items ← elements .reduce array scope
  let start ← match initial with
    | some initial => initial scope
    | none => pure .null
  items.foldlM (fun accumulator current => body (Scope.reduction accumulator current)) start

/-- How many elements satisfy a test; no element is looked at after the one that decides, and not all
elements of an empty array do. -/
def quantify (kind : Quantifier) (test : Value → m Bool) (items : List Value) : m Bool :=
  match kind with
  | .all => if items.isEmpty then return false else items.allM test
  | .none => return !(← items.anyM test)
  | .some => items.anyM test

def quantifier (kind : Quantifier) (array body : Meaning m) : Meaning m := fun scope => do
  let items ← elements (.quantifier kind) array scope
  return .bool (← quantify kind (holds (.quantifier kind) body) items)

/-! ## Operators -/

/-- The meaning of an operator from the meanings of its operands. -/
def ofOperator (op : Operator) (operands : List (Meaning m)) : Meaning m :=
  match op, operands with
  | .equality kind, lhs :: rhs :: _ => equality kind lhs rhs
  | .relation kind, first :: second :: rest => relation kind first second rest.head?
  | .not, operand :: _ => fun scope => return .bool !(← truth .not operand scope)
  | .truth, operand :: _ => fun scope => return .bool (← truth .truth operand scope)
  | .log, operand :: _ => log operand
  | .junction kind, operands => junction kind operands
  | .cond, operands => cond operands
  | .arithmetic step, [rhs] => arithmetic step none rhs
  | .arithmetic step, lhs :: rhs :: _ => arithmetic step (some lhs) rhs
  | .fold step, operands => fold step operands
  | .map, array :: body :: _ => map array body
  | .filter, array :: body :: _ => filter array body
  | .reduce, array :: body :: rest => reduce array body rest.head?
  | .quantifier kind, array :: body :: _ => quantifier kind array body
  | .member, needle :: haystack :: others => member needle haystack others
  | .substring, text :: rest => substring text rest.head? rest.tail.head?
  | .var, [] => fun scope => scope.lookup "" none
  | .var, name :: _ => var name none
  | .regex, pattern :: subject :: _ => matching pattern subject none
  | op, operands => short op operands.length

end Meaning

end JsonRules
