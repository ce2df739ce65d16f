/-
# JsonRules.Proofs.Operands -- which operands a node keeps

An operator has a cap, which is shown to users, and drops the operands beyond it when it is put
together.  Every operand is read all the same.  The others go to their places in the node of the
operator, and from there they are listed as the children of the node (`Node.children_ofOperands`),
which are also those of the expression (`Compilation.children_ofNode`).

A node has a place for every operand that the cap lets through (`Operator.keep_eq_take`), with one
exception: a quantifier has a cap of three and two places.  So an operand that is not among the
children stands beyond the cap, or it is the third one of a quantifier
(`Compilation.keeps_first_operands`).
-/
import JsonRules.Libraries
import JsonRules.Proofs.Nodes
import JsonRules.Proofs.Reading

namespace JsonRules

set_option autoImplicit false

/-! ## The cap -/

namespace Operator

variable {α : Type} {op : Operator} {operands : List α}

/-- How many of a number of operands the cap lets through. -/
def reach (op : Operator) (count : Nat) : Nat := op.cap.elim count (min count)

theorem kept_eq_cap (other : ∀ kind, op ≠ .quantifier kind) : op.kept = op.cap := by
  cases op with
  | quantifier kind => exact absurd rfl (other kind)
  | _ => rfl

/-- A quantifier keeps two operands, whatever its cap. -/
theorem keep_quantifier (kind : Quantifier) (operands : List α) :
    (quantifier kind).keep operands = operands.take 2 := rfl

/-- The operands within the cap are kept, unless a quantifier has a third one. -/
theorem keep_eq_take (fits : ∀ kind, op = .quantifier kind → operands.length ≤ 2) :
    op.keep operands = operands.take (op.reach operands.length) := by
  by_cases isQuantifier : ∃ kind, op = .quantifier kind
  · obtain ⟨kind, rfl⟩ := isQuantifier
    have few := fits kind rfl
    have all : (quantifier kind).reach operands.length = operands.length :=
      Nat.min_eq_left (Nat.le_succ_of_le few)
    rw [keep_quantifier, List.take_of_length_le few, all, List.take_length]
  · rw [keep, kept_eq_cap (not_exists.mp isQuantifier), reach]
    cases op.cap with
    | none => exact List.take_length.symm
    | some cap => exact List.take_eq_take_min.trans (congrArg operands.take (Nat.min_comm ..))

end Operator

/-! ## Children -/

namespace Compilation

section

variable [PatternEngine] {table later : NameTable} {op : Operator} {operands : List Expr} {e : Expr}

/-- The children of a node stay its children in a rule, and the node is known by the name and the cap
of its operator. -/
theorem children_ofNode {node : Node Expr} (taken : ofNode node table = .ok e later) :
    e.children = node.children ∧ e.name = node.operator.name ∧ e.cap = node.operator.cap := by
  cases node with
  | var name =>
      obtain ⟨slot, between, -, result⟩ := bind_eq_ok_iff.mp taken
      cases result
      exact ⟨rfl, rfl, rfl⟩
  | regex pattern subject =>
      rw [ofNode_regex] at taken
      obtain ⟨compiled, between, -, result⟩ := bind_eq_ok_iff.mp taken
      cases result
      exact ⟨rfl, rfl, rfl⟩
  | _ =>
      cases taken
      exact ⟨rfl, rfl, rfl⟩

/-- A form that is read as an application reads all operands first. -/
theorem exists_build_of_apply {key : String} {operand : Json}
    (read : ofJson (.object [(key, operand)]) table = .ok e later) :
    ∃ op operands between, Operator.ofName? key = some op ∧
      (operandsOf operand).mapM ofJson table = .ok operands between ∧
      build op operands between = .ok e later := by
  rw [ofJson_apply] at read
  obtain ⟨op, unchanged, named, read⟩ := bind_eq_ok_iff.mp read
  obtain ⟨operands, between, each, built⟩ := bind_eq_ok_iff.mp read
  unfold operator at named
  cases found : Operator.ofName? key with
  | none =>
      rw [found] at named
      cases named
  | some known =>
      rw [found] at named
      cases named
      exact ⟨op, operands, between, rfl, each, built⟩

/-- **A node keeps the first operands.**  An object that applies an operator is read operand by
operand, and what the operands were read as goes into a node.  With enough operands, or at least a
name for a variable, the children of the node are the first of them, up to the cap that the node and
the table of operators show, from left to right and the other way round.  Only a third operand of a
quantifier is dropped within the cap. -/
theorem keeps_first_operands {key : String} {operand : Json}
    (read : ofJson (.object [(key, operand)]) table = .ok e later) :
    ∃ op operands between node, Operator.ofName? key = some op ∧
      (operandsOf operand).mapM ofJson table = .ok operands between ∧
      operands.length = (operandsOf operand).length ∧
      node = Node.ofOperands (.literal .null) (.literal (.string "")) op operands ∧
      ofNode node between = .ok e later ∧
      e.children = node.children ∧ e.name = op.name ∧ e.cap = op.cap ∧
      (op.leastOperands ≤ operands.length → (op = .var → 1 ≤ operands.length) →
        ((∀ kind, op = .quantifier kind → operands.length ≤ 2) →
          node.children = operands.take (op.reach operands.length) ∧
          ∀ i < op.reach operands.length,
            node.children.reverse[i]? = operands[op.reach operands.length - 1 - i]?) ∧
        ∀ kind, op = .quantifier kind → node.children = operands.take 2) := by
  obtain ⟨op, operands, between, named, each, built⟩ := exists_build_of_apply read
  obtain ⟨children, name, cap⟩ := children_ofNode built
  rw [Node.operator_ofOperands] at name cap
  refine ⟨op, operands, between, _, named, each, (forall₂_of_mapM each).length_eq.symm, rfl, built,
    children, name, cap, fun enough nameThere => ?_⟩
  have kept : (Node.ofOperands (.literal .null) (.literal (.string "")) op operands).children
      = op.keep operands :=
    Node.children_ofOperands enough fun isVar => List.ne_nil_of_length_pos (nameThere isVar)
  refine ⟨fun fits => ?_, ?_⟩
  · rw [kept, Operator.keep_eq_take fits]
    refine ⟨rfl, fun i within => ?_⟩
    have count : (operands.take (op.reach operands.length)).length = op.reach operands.length := by
      rw [List.length_take, Nat.min_eq_left]
      unfold Operator.reach
      cases op.cap with
      | none => exact Nat.le_refl _
      | some cap => exact Nat.min_le_left ..
    rw [List.getElem?_reverse (by omega), count, List.getElem?_take, if_pos (by omega)]
  · rintro kind rfl
    rw [kept, Operator.keep_quantifier]

end

/-- Asks for a part of a text; its fourth operand is beyond the cap. -/
def overlongPart : List Json :=
  [.object [("var", .scalar (.string "text"))], .scalar .null, .scalar .null,
    .object [("var", .scalar (.string "unused"))]]

/-- What is dropped has been read, and its name has a slot. -/
theorem keeps_first_operands_overlong :
    ∃ e later, ofJson (.object [("substr", .array overlongPart)]) {} = .ok e later ∧
      later.names = ["text", "unused"] ∧
      ∃ operands between node,
        (operandsOf (.array overlongPart)).mapM ofJson {} = .ok operands between ∧
        node = Node.ofOperands (.literal .null) (.literal (.string "")) .substring operands ∧
        ofNode node between = .ok e later ∧ e.children = node.children ∧ e.cap = some 3 ∧
        operands.length = 4 ∧ node.children = operands.take 3 ∧
        ∀ i < 3, node.children.reverse[i]? = operands[2 - i]? := by
  have read : ofJson (.object [("substr", .array overlongPart)]) {}
      = .ok (.call .substring [.var (.literal (.string "text")) (some 0), .literal .null,
          .literal .null])
        ⟨["text", "unused"], [("text", 0), ("unused", 1)], false⟩ := rfl
  obtain ⟨op, operands, between, node, named, each, length, made, taken, children, -, cap, kept⟩ :=
    keeps_first_operands read
  obtain rfl : op = .substring := Option.some.inj (named.symm.trans rfl)
  have four : operands.length = 4 := length
  have enough : Operator.substring.leastOperands ≤ operands.length := by rw [four]; decide
  obtain ⟨first, backwards⟩ := (kept enough nofun).1 nofun
  have reach : Operator.substring.reach operands.length = 3 := by rw [four]; rfl
  rw [reach] at first backwards
  exact ⟨_, _, read, rfl, operands, between, node, each, made, taken, children, cap, four, first,
    backwards⟩

/-- A quantifier drops its third operand, which is within the cap of three. -/
theorem third_operand_of_all_is_dropped :
    ∃ e later, ofJson (.object [("all", .array [.array [], .scalar (.bool true),
        .scalar (.bool false)])]) {} = .ok e later ∧
      e.cap = some 3 ∧
      [Doc.array [], .scalar (.bool true), .scalar (.bool false)].mapM ofJson {}
        = .ok [.array [], .literal (.bool true), .literal (.bool false)] {} ∧
      e.children ≠ [Expr.array [], .literal (.bool true), .literal (.bool false)].take (min 3 3) :=
  ⟨.call (.quantifier .all) [.array [], .literal (.bool true)], {}, rfl, rfl, rfl, by decide⟩

end Compilation

end JsonRules
