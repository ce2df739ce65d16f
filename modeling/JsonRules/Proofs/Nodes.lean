/-
# JsonRules.Proofs.Nodes -- what finds a place in a node

How many operands a node takes notice of is said four times: by the cap of its operator, by the
number of operands that are needed, by the places of its family, and by the list of its children.
This module brings the four together.  With enough operands the children of a node are the first
ones, in their order, as many as there are places (`Node.children_ofOperands`), and no filler is
among them.  For most operators there is a place for every operand within the cap; a quantifier has
one place less (`Operator.kept`).
-/
import JsonRules.Compilation

namespace JsonRules

set_option autoImplicit false

variable {α : Type}

namespace Operator

/-- How many operands find a place in a node; `none` where any number does. -/
def kept : Operator → Option Nat
  | quantifier _ => some 2
  | op => op.cap

/-- The operands that find a place. -/
def keep (op : Operator) (operands : List α) : List α :=
  match op.kept with
  | some count => operands.take count
  | none => operands

variable {op : Operator} {operands : List α}

theorem leastOperands_le_kept (op : Operator) {count : Nat} (kept : op.kept = some count) :
    op.leastOperands ≤ count := by
  cases op <;> simp_all [Operator.kept, cap, leastOperands] <;> omega

/-- An operator that has enough operands keeps enough. -/
theorem leastOperands_le_length_keep (enough : op.leastOperands ≤ operands.length) :
    op.leastOperands ≤ (op.keep operands).length := by
  rw [keep]
  split
  · rename_i count kept
    rw [List.length_take]
    exact Nat.le_min.mpr ⟨op.leastOperands_le_kept kept, enough⟩
  · exact enough

@[simp] theorem keep_keep (op : Operator) (operands : List α) :
    op.keep (op.keep operands) = op.keep operands := by
  simp only [keep]
  split
  · rw [List.take_take, Nat.min_self]
  · rfl

theorem mem_of_mem_keep {operand : α} (kept : operand ∈ op.keep operands) :
    operand ∈ operands := by
  rw [keep] at kept
  split at kept
  · exact List.mem_of_mem_take kept
  · exact kept

/-- How many operands are kept depends only on how many there are. -/
theorem keep_eq_of_length {β : Type} {as : List α} {bs : List β}
    (same : as.length = bs.length) (kept : op.keep as = as) : op.keep bs = bs := by
  unfold keep at kept ⊢
  split at kept
  · rename_i count _
    have bound : as.length ≤ count := by
      rw [← kept, List.length_take]
      exact Nat.min_le_left ..
    exact List.take_of_length_le (same ▸ bound)
  · rfl

end Operator

namespace Node

variable {filler unnamed : α} {op : Operator} {operands : List α}

theorem ofOperands_short (short : operands.length < op.leastOperands) :
    ofOperands filler unnamed op operands = .incomplete op operands := if_pos short

theorem ofOperands_enough (enough : op.leastOperands ≤ operands.length) :
    ofOperands filler unnamed op operands
      = ((fill filler unnamed op).run (op.capped operands)).1 :=
  if_neg (Nat.not_lt.mpr enough)

/-- A variable takes the first operand for its name, if there is one. -/
theorem ofOperands_var (operands : List α) :
    ofOperands filler unnamed .var operands = .var (operands.head?.getD unnamed) := by
  cases operands <;> rfl

theorem ofOperands_regex (pattern subject : α) (rest : List α) :
    ofOperands filler unnamed .regex (pattern :: subject :: rest) = .regex pattern subject := by
  have enough : Operator.regex.leastOperands ≤ (pattern :: subject :: rest).length :=
    Nat.le_add_left 2 rest.length
  rw [ofOperands_enough enough]
  rfl

/-- A node that is filled is one of its operator. -/
theorem operator_fill (op : Operator) (operands : List α) :
    ((fill filler unnamed op).run operands).1.operator = op := by
  cases op with
  | arithmetic step =>
      match operands with
      | [] | [_] | _ :: _ :: _ => rfl
  | _ => rfl

theorem operator_ofOperands (op : Operator) (operands : List α) :
    (ofOperands filler unnamed op operands).operator = op := by
  rw [ofOperands]
  split
  · rfl
  · exact operator_fill op _

/-- The children of a node are the operands that find a place in it. -/
theorem children_ofOperands (enough : op.leastOperands ≤ operands.length)
    (named : op = .var → operands ≠ []) :
    (ofOperands filler unnamed op operands).children = op.keep operands := by
  rw [ofOperands_enough enough]
  cases op with
  | junction _ | cond | fold _ | member => rfl
  | var =>
      obtain ⟨name, rest, rfl⟩ := List.exists_cons_of_ne_nil (named rfl)
      rfl
  | not | truth | log =>
      obtain ⟨operand, rest, rfl⟩ := List.exists_cons_of_length_pos enough
      rfl
  | arithmetic step =>
      -- a single operand is the right one
      match operands, enough with
      | [_], _ | _ :: _ :: _, _ => rfl
  | substring =>
      match operands, enough with
      | [_], _ | [_, _], _ | _ :: _ :: _ :: _, _ => rfl
  | equality _ | regex | map | filter | quantifier _ =>
      match operands, enough with
      | _ :: _ :: _, _ => rfl
  | relation _ | reduce =>
      match operands, enough with
      | [_, _], _ | _ :: _ :: _ :: _, _ => rfl

end Node

end JsonRules
