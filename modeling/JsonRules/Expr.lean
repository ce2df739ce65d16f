/-
# JsonRules.Expr -- rules as trees

A rule is a literal, an array of rules, or an operator applied to operands.  Two operators
have nodes of their own because reading a rule finds out something about them: a variable
whose name is a literal has a slot in the table of names, and a pattern that is a literal is
compiled.

`Expr.children` lists what a node evaluates; depth, size and the rule as JSON are worked out
over it from the leaves to the root.
-/
import JsonRules.Operator
import JsonRules.Pattern
import JsonRules.Value

namespace JsonRules

set_option autoImplicit false

variable [PatternEngine]

inductive Expr where
  | literal (value : Value)
  | array (items : List Expr)
  /-- A variable: what gives its name, and the slot of a name that is a literal. -/
  | var (name : Expr) (slot : Option Nat)
  /-- A match, with the compiled pattern if the pattern is a literal. -/
  | regex (pattern subject : Expr) (compiled : Option Pattern)
  | call (op : Operator) (operands : List Expr)

namespace Expr

instance : Inhabited Expr := ⟨.literal .null⟩

/-- The nodes right below a node, in the order in which they are evaluated. -/
def children : Expr → List Expr
  | literal _ => []
  | array items => items
  | var name _ => [name]
  | regex pattern subject _ => [pattern, subject]
  | call _ operands => operands

/-- What a node is called: an operator by its name, a literal by the kind of its value. -/
def name : Expr → String
  | literal value => value.kind.name
  | array _ => "[]"
  | var _ _ => Operator.var.name
  | regex _ _ _ => Operator.regex.name
  | call op _ => op.name

/-- The most operands that a node takes notice of. -/
def cap : Expr → Option Nat
  | literal _ => some 0
  | array _ => none
  | var _ _ => Operator.var.cap
  | regex _ _ _ => Operator.regex.cap
  | call op _ => op.cap

def isLiteral : Expr → Bool
  | literal _ => true
  | _ => false

/-- The node has fewer operands than its operator needs. -/
def isShort : Expr → Bool
  | call op operands => operands.length < op.leastOperands
  | _ => false

/-! ## Attributes from the leaves to the root -/

mutual

/-- The number of nodes on the longest path from the root to a leaf. -/
def depth : Expr → Nat
  | literal _ => 1
  | array items => 1 + depthEach items
  | var name _ => 1 + name.depth
  | regex pattern subject _ => 1 + max pattern.depth subject.depth
  | call _ operands => 1 + depthEach operands

def depthEach : List Expr → Nat
  | [] => 0
  | e :: rest => max e.depth (depthEach rest)

end

mutual

def nodeCount : Expr → Nat
  | literal _ => 1
  | array items => 1 + nodeCountEach items
  | var name _ => 1 + name.nodeCount
  | regex pattern subject _ => 1 + (pattern.nodeCount + subject.nodeCount)
  | call _ operands => 1 + nodeCountEach operands

def nodeCountEach : List Expr → Nat
  | [] => 0
  | e :: rest => e.nodeCount + nodeCountEach rest

end

mutual

/-- The rule as JSON, in its normal form: every operator lists its operands as an array. -/
def toJson : Expr → Json
  | literal value => value.toJson
  | array items => .array (toJsonEach items)
  | var name _ => .object [(Operator.var.name, .array [name.toJson])]
  | regex pattern subject _ =>
      .object [(Operator.regex.name, .array [pattern.toJson, subject.toJson])]
  | call op operands => .object [(op.name, .array (toJsonEach operands))]

def toJsonEach : List Expr → List Json
  | [] => []
  | e :: rest => e.toJson :: toJsonEach rest

end

mutual

/-- The nodes from the root on, each before the nodes below it, with their depth below the root. -/
def outline (depth : Nat) : Expr → List (Nat × Expr)
  | literal value => [(depth, literal value)]
  | array items => (depth, array items) :: outlineEach (depth + 1) items
  | var name slot => (depth, var name slot) :: name.outline (depth + 1)
  | regex pattern subject compiled =>
      (depth, regex pattern subject compiled)
        :: (pattern.outline (depth + 1) ++ subject.outline (depth + 1))
  | call op operands => (depth, call op operands) :: outlineEach (depth + 1) operands

def outlineEach (depth : Nat) : List Expr → List (Nat × Expr)
  | [] => []
  | e :: rest => e.outline depth ++ outlineEach depth rest

end

theorem toJsonEach_eq (operands : List Expr) : toJsonEach operands = operands.map toJson := by
  induction operands with
  | nil => rfl
  | cons e rest ih => simp [toJsonEach, ih]

/-- The depth of a node is one more than the greatest depth of its children. -/
theorem depth_eq (e : Expr) : e.depth = 1 + depthEach e.children := by
  cases e <;> simp [depth, children, depthEach]

/-- The size of a node is one more than the sizes of its children together. -/
theorem nodeCount_eq (e : Expr) : e.nodeCount = 1 + nodeCountEach e.children := by
  cases e <;> simp [nodeCount, children, nodeCountEach]

/-! ## Equality is decidable -/

mutual

def decEq : (a b : Expr) → Decidable (a = b)
  | .literal a, .literal b => decidable_of_iff (a = b) (by simp)
  | .array a, .array b =>
      have := decEqEach a b
      decidable_of_iff (a = b) (by simp)
  | .var a i, .var b j =>
      have := decEq a b
      decidable_of_iff (a = b ∧ i = j) (by simp)
  | .regex a s p, .regex b t q =>
      have := decEq a b
      have := decEq s t
      decidable_of_iff (a = b ∧ s = t ∧ p = q) (by simp)
  | .call f a, .call g b =>
      have := decEqEach a b
      decidable_of_iff (f = g ∧ a = b) (by simp)
  | .literal _, .array _ | .literal _, .var _ _ | .literal _, .regex _ _ _ | .literal _, .call _ _
  | .array _, .literal _ | .array _, .var _ _ | .array _, .regex _ _ _ | .array _, .call _ _
  | .var _ _, .literal _ | .var _ _, .array _ | .var _ _, .regex _ _ _ | .var _ _, .call _ _
  | .regex _ _ _, .literal _ | .regex _ _ _, .array _ | .regex _ _ _, .var _ _
  | .regex _ _ _, .call _ _
  | .call _ _, .literal _ | .call _ _, .array _ | .call _ _, .var _ _ | .call _ _, .regex _ _ _ =>
      isFalse (by simp)

def decEqEach : (a b : List Expr) → Decidable (a = b)
  | [], [] => isTrue rfl
  | x :: xs, y :: ys =>
      have := decEq x y
      have := decEqEach xs ys
      decidable_of_iff (x = y ∧ xs = ys) (by simp)
  | [], _ :: _ | _ :: _, [] => isFalse (by simp)

end

instance : DecidableEq Expr := decEq

end Expr

end JsonRules
