/-
# JsonRules.Proofs.Tree -- the nodes of a rule, and the numbers of its slots

What is proved of rules goes by induction over the tree, with one case for each kind of node
(`Expr.induct`).  Two notions are used throughout:

* `Everywhere p e` says that every node of `e` satisfies `p`; the nodes are those that the
  outline of the rule lists;
* `renumber f e` changes the numbers of the slots and nothing else, so two rules with the same
  `unnumbered` form are equal node for node except for these numbers.  The JSON form of a rule
  does not see the numbers (`toJson_renumber`).
-/
import JsonRules.Expr
import Mathlib.Data.List.Basic

namespace JsonRules.Expr

set_option autoImplicit false

/-! ## Induction over rules -/

variable [PatternEngine]

/-- Induction over a rule: one case for each kind of node, with the claim for what stands below. -/
@[elab_as_elim]
theorem induct {motive : Expr → Prop} (literal : ∀ value, motive (.literal value))
    (array : ∀ items, (∀ e ∈ items, motive e) → motive (.array items))
    (var : ∀ name slot, motive name → motive (.var name slot))
    (regex : ∀ pattern subject compiled, motive pattern → motive subject →
      motive (.regex pattern subject compiled))
    (call : ∀ op operands, (∀ e ∈ operands, motive e) → motive (.call op operands)) (e : Expr) :
    motive e := by
  refine @Expr.rec _ motive (fun items => ∀ e ∈ items, motive e) literal array var regex call ?_ ?_ e
  · intro e member
    cases member
  · intro first rest ihFirst ihRest e member
    rcases List.mem_cons.mp member with rfl | later
    · exact ihFirst
    · exact ihRest e later

/-! ## Nodes -/

/-- The nodes of a rule from the root on, each before the nodes below it. -/
def nodes (e : Expr) : List Expr := (e.outline 0).map Prod.snd

theorem outlineEach_eq (depth : Nat) (items : List Expr) :
    outlineEach depth items = items.flatMap (outline depth) := by
  induction items with
  | nil => rfl
  | cons e rest ih => simp [outlineEach, ih]

/-- The nodes are the same from whatever depth the outline counts. -/
theorem map_snd_outline (e : Expr) : ∀ depth, (e.outline depth).map Prod.snd = e.nodes := by
  unfold nodes
  induction e using induct with
  | literal value => intro depth; rfl
  | array items ih | call _ items ih =>
      intro depth
      simp only [outline, outlineEach_eq, List.map_cons, List.map_flatMap]
      rw [List.flatMap_congr fun e member => ih e member (depth + 1),
        List.flatMap_congr fun e member => ih e member (0 + 1)]
  | var name slot ih =>
      intro depth
      simp only [outline, List.map_cons]
      rw [ih (depth + 1), ih (0 + 1)]
  | regex pattern subject compiled ihPattern ihSubject =>
      intro depth
      simp only [outline, List.map_cons, List.map_append]
      rw [ihPattern (depth + 1), ihPattern (0 + 1), ihSubject (depth + 1), ihSubject (0 + 1)]

theorem nodes_literal (value : Value) : (literal value).nodes = [literal value] := rfl

theorem nodes_array (items : List Expr) :
    (array items).nodes = array items :: items.flatMap nodes := by
  rw [← map_snd_outline _ 0]
  simp only [outline, outlineEach_eq, List.map_cons, List.map_flatMap, map_snd_outline]

theorem nodes_var (name : Expr) (slot : Option Nat) :
    (var name slot).nodes = var name slot :: name.nodes := by
  rw [← map_snd_outline _ 0]
  simp only [outline, List.map_cons, map_snd_outline]

theorem nodes_regex (pattern subject : Expr) (compiled : Option Pattern) :
    (regex pattern subject compiled).nodes
      = regex pattern subject compiled :: (pattern.nodes ++ subject.nodes) := by
  rw [← map_snd_outline _ 0]
  simp only [outline, List.map_cons, List.map_append, map_snd_outline]

theorem nodes_call (op : Operator) (operands : List Expr) :
    (call op operands).nodes = call op operands :: operands.flatMap nodes := by
  rw [← map_snd_outline _ 0]
  simp only [outline, outlineEach_eq, List.map_cons, List.map_flatMap, map_snd_outline]

/-- Every node of the rule satisfies `p`. -/
def Everywhere (p : Expr → Prop) (e : Expr) : Prop := ∀ node ∈ e.nodes, p node

section Everywhere

variable {p q : Expr → Prop}

@[simp] theorem everywhere_literal (value : Value) :
    (literal value).Everywhere p ↔ p (literal value) := by
  simp [Everywhere, nodes_literal]

@[simp] theorem everywhere_array (items : List Expr) :
    (array items).Everywhere p ↔ p (array items) ∧ ∀ e ∈ items, e.Everywhere p := by
  simp only [Everywhere, nodes_array, List.forall_mem_cons, List.mem_flatMap]
  grind

@[simp] theorem everywhere_var (name : Expr) (slot : Option Nat) :
    (var name slot).Everywhere p ↔ p (var name slot) ∧ name.Everywhere p := by
  simp [Everywhere, nodes_var]

@[simp] theorem everywhere_regex (pattern subject : Expr) (compiled : Option Pattern) :
    (regex pattern subject compiled).Everywhere p
      ↔ p (regex pattern subject compiled) ∧ pattern.Everywhere p ∧ subject.Everywhere p := by
  simp only [Everywhere, nodes_regex, List.forall_mem_cons, List.forall_mem_append]

@[simp] theorem everywhere_call (op : Operator) (operands : List Expr) :
    (call op operands).Everywhere p
      ↔ p (call op operands) ∧ ∀ e ∈ operands, e.Everywhere p := by
  simp only [Everywhere, nodes_call, List.forall_mem_cons, List.mem_flatMap]
  grind

theorem Everywhere.imp {e : Expr} (everywhere : e.Everywhere p) (weaker : ∀ node, p node → q node) :
    e.Everywhere q := fun node member => weaker node (everywhere node member)

end Everywhere

/-! ## Renumbering -/

mutual

/-- Changes the numbers of the slots. -/
def renumber (f : Nat → Nat) : Expr → Expr
  | literal value => literal value
  | array items => array (renumberEach f items)
  | var name slot => var (name.renumber f) (slot.map f)
  | regex pattern subject compiled => regex (pattern.renumber f) (subject.renumber f) compiled
  | call op operands => call op (renumberEach f operands)

def renumberEach (f : Nat → Nat) : List Expr → List Expr
  | [] => []
  | e :: rest => e.renumber f :: renumberEach f rest

end

theorem renumberEach_eq (f : Nat → Nat) (items : List Expr) :
    renumberEach f items = items.map (renumber f) := by
  induction items with
  | nil => rfl
  | cons e rest ih => simp [renumberEach, ih]

@[simp] theorem renumber_id (e : Expr) : e.renumber id = e := by
  induction e using induct with
  | literal value => rfl
  | array items ih =>
      rw [renumber, renumberEach_eq, List.map_congr_left ih, List.map_id']
  | var name slot ih => simp [renumber, ih]
  | regex pattern subject compiled ihPattern ihSubject => simp [renumber, ihPattern, ihSubject]
  | call op operands ih =>
      rw [renumber, renumberEach_eq, List.map_congr_left ih, List.map_id']

theorem everywhere_renumber (f : Nat → Nat) {p : Expr → Prop} (e : Expr) :
    (e.renumber f).Everywhere p ↔ e.Everywhere fun node => p (node.renumber f) := by
  induction e using induct with
  | literal value => simp [renumber]
  | array items ih | call _ items ih =>
      simp only [renumber, renumberEach_eq, everywhere_array, everywhere_call, List.forall_mem_map]
      exact and_congr_right fun _ => forall₂_congr ih
  | var name slot ih => simp [renumber, ih]
  | regex pattern subject compiled ihPattern ihSubject => simp [renumber, ihPattern, ihSubject]

/-- The JSON form of a rule does not show the numbers of its slots. -/
theorem toJson_renumber (f : Nat → Nat) (e : Expr) : (e.renumber f).toJson = e.toJson := by
  induction e using induct with
  | literal value => rfl
  | array items ih | call _ items ih =>
      have each : items.map (toJson ∘ renumber f) = items.map toJson := List.map_congr_left ih
      simp only [renumber, renumberEach_eq, toJson, toJsonEach_eq, List.map_map, each]
  | var name slot ih => simp only [renumber, toJson, ih]
  | regex pattern subject compiled ihPattern ihSubject =>
      simp only [renumber, toJson, ihPattern, ihSubject]

/-- The rule with the numbers of its slots wiped out. -/
def unnumbered (e : Expr) : Expr := e.renumber fun _ => 0

@[simp] theorem unnumbered_array (items : List Expr) :
    (array items).unnumbered = array (items.map unnumbered) := by
  rw [unnumbered, renumber, renumberEach_eq]
  rfl

@[simp] theorem unnumbered_var (name : Expr) (slot : Option Nat) :
    (var name slot).unnumbered = var name.unnumbered (slot.map fun _ => 0) := rfl

@[simp] theorem unnumbered_regex (pattern subject : Expr) (compiled : Option Pattern) :
    (regex pattern subject compiled).unnumbered
      = regex pattern.unnumbered subject.unnumbered compiled := rfl

@[simp] theorem unnumbered_call (op : Operator) (operands : List Expr) :
    (call op operands).unnumbered = call op (operands.map unnumbered) := by
  rw [unnumbered, renumber, renumberEach_eq]
  rfl

theorem toJson_unnumbered (e : Expr) : e.unnumbered.toJson = e.toJson := toJson_renumber _ e

/-- Rules that differ only in the numbers of their slots have one JSON form. -/
theorem toJson_eq_of_unnumbered {a b : Expr} (same : a.unnumbered = b.unnumbered) :
    a.toJson = b.toJson := by
  rw [← toJson_unnumbered a, same, toJson_unnumbered b]

end JsonRules.Expr
