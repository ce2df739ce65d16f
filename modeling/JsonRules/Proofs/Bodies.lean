/-
# JsonRules.Proofs.Bodies -- what a rule asks its host for outside of bodies

The body of an array operator is run in the scope of an element and never in the scope of the
host (`Meaning.ofOperator_inside`).  What a run asks the host for therefore comes from the nodes
outside of all bodies (`Expr.outerNodes`), and hosts that agree on what these nodes look up give
one run (`eval_eq_of_outerNodes`), whatever the bodies say.
-/
import JsonRules.Proofs.Simulation
import Mathlib.Data.List.InsertIdx

namespace JsonRules

set_option autoImplicit false

/-! ## Operands outside of bodies -/

namespace Operator

/-- The second operand is a body, which is run for the elements of the first. -/
def hasBody : Operator → Bool
  | map | filter | reduce | quantifier _ => true
  | _ => false

/-- The operands that are run where the operator is. -/
def outerOperands {α : Type} (op : Operator) (operands : List α) : List α :=
  if op.hasBody then operands.eraseIdx 1 else operands

theorem outerOperands_map {α β : Type} (f : α → β) (op : Operator) (operands : List α) :
    op.outerOperands (operands.map f) = (op.outerOperands operands).map f := by
  rw [outerOperands, outerOperands]
  split
  · rw [List.eraseIdx_map]
  · rfl

theorem mem_of_mem_outerOperands {α : Type} {op : Operator} {operands : List α} {operand : α}
    (outer : operand ∈ op.outerOperands operands) : operand ∈ operands := by
  rw [outerOperands] at outer
  split at outer
  · exact List.mem_of_mem_eraseIdx outer
  · exact outer

end Operator

variable [PatternEngine]

namespace Expr

mutual

/-- The nodes outside of the bodies of array operators, each before the nodes below it. -/
def outerNodes : Expr → List Expr
  | literal value => [literal value]
  | array items => array items :: outerNodesEach items
  | var name slot => var name slot :: name.outerNodes
  | regex pattern subject compiled =>
      regex pattern subject compiled :: (pattern.outerNodes ++ subject.outerNodes)
  | call op operands =>
      call op operands
        :: (if op.hasBody then outerNodesAround operands else outerNodesEach operands)

def outerNodesEach : List Expr → List Expr
  | [] => []
  | e :: rest => e.outerNodes ++ outerNodesEach rest

/-- Passes over the second operand. -/
def outerNodesAround : List Expr → List Expr
  | [] => []
  | [first] => first.outerNodes
  | first :: _ :: rest => first.outerNodes ++ outerNodesEach rest

end

theorem outerNodesEach_eq (operands : List Expr) :
    outerNodesEach operands = operands.flatMap outerNodes := by
  induction operands with
  | nil => rfl
  | cons e rest ih => simp [outerNodesEach, ih]

theorem outerNodes_call (op : Operator) (operands : List Expr) :
    (call op operands).outerNodes
      = call op operands :: (op.outerOperands operands).flatMap outerNodes := by
  rw [outerNodes, Operator.outerOperands]
  split
  · match operands with
    | [] => rfl
    | [first] => simp [outerNodesAround]
    | first :: body :: rest => simp [outerNodesAround, outerNodesEach_eq]
  · rw [outerNodesEach_eq]

theorem mem_nodes_of_mem_outerNodes {e node : Expr} (outer : node ∈ e.outerNodes) :
    node ∈ e.nodes := by
  induction e using induct with
  | literal value => exact outer
  | array items ih =>
      simp only [outerNodes, outerNodesEach_eq, nodes_array, List.mem_cons,
        List.mem_flatMap] at outer ⊢
      exact outer.imp_right fun ⟨e, member, below⟩ => ⟨e, member, ih e member below⟩
  | var name slot ih =>
      simp only [outerNodes, nodes_var, List.mem_cons] at outer ⊢
      exact outer.imp_right ih
  | regex pattern subject compiled ihPattern ihSubject =>
      simp only [outerNodes, nodes_regex, List.mem_cons, List.mem_append] at outer ⊢
      exact outer.imp_right (Or.imp ihPattern ihSubject)
  | call op operands ih =>
      simp only [outerNodes_call, nodes_call, List.mem_cons, List.mem_flatMap] at outer ⊢
      refine outer.imp_right fun ⟨e, member, below⟩ => ?_
      have operand := Operator.mem_of_mem_outerOperands member
      exact ⟨e, operand, ih e operand below⟩

end Expr

/-! ## Bodies are run for elements only -/

namespace Meaning

/-- A body where no host can be asked. -/
def inside (body : Meaning) : Meaning
  | .element record => body (.element record)
  | .host _ => return .null

/-- It makes no difference what a body would be in the scope of a host. -/
theorem ofOperator_inside {op : Operator} (hasBody : op.hasBody = true) (operands : List Meaning) :
    ofOperator op (operands.modify 1 inside) = ofOperator op operands := by
  match operands with
  | [] | [_] => rfl
  | array :: body :: rest =>
      cases op with
      | map | filter | reduce | quantifier => rfl
      | _ => cases hasBody

end Meaning

/-- Equal runs. -/
def Simulation.equal : Simulation where
  Rel r s := r = s
  ofExcept _ := rfl
  bind {α β r s f g} first next := by
    subst first
    obtain ⟨events, outcome⟩ := r
    cases outcome with
    | error fault => rfl
    | ok x => simp only [Bind.bind, Run.bind, next x rfl]

section Outer

variable {a b : Host}

omit [PatternEngine] in
theorem Simulation.alike_equal {m : Meaning} (same : m (.host a) = m (.host b)) :
    Simulation.equal.Alike a b m m := by
  intro σ τ paired
  refine ⟨?_, fun _ _ => trivial⟩
  cases paired with
  | host => exact same
  | element => rfl

/-- An operator gives one run with two hosts if its operands outside of a body do. -/
theorem ofOperator_eq_of_outerOperands {op : Operator} (notVar : op ≠ .var)
    {operands : List Meaning}
    (outer : ∀ m ∈ op.outerOperands operands, m (.host a) = m (.host b)) :
    Meaning.ofOperator op operands (.host a) = Meaning.ofOperator op operands (.host b) := by
  have asks : op = .var → Simulation.equal.Asks a b := fun same => absurd same notVar
  have logs : op = .log → Simulation.equal.Logs := fun _ _ _ => rfl
  rw [Operator.outerOperands] at outer
  split at outer
  · rename_i hasBody
    rw [← Meaning.ofOperator_inside hasBody]
    refine (Simulation.ofOperator (S := .equal) asks logs ?_ .host).related
    rw [List.forall₂_same]
    -- the body is replaced by one that is the same for all hosts, so the claim holds of it, too
    match operands with
    | [] => exact List.forall_mem_nil _
    | [array] => exact fun m member => Simulation.alike_equal (outer m member)
    | array :: body :: rest =>
        have insideBody : body.inside (.host a) = body.inside (.host b) := rfl
        intro m member
        rcases List.mem_cons.mp member with rfl | member
        · exact Simulation.alike_equal (outer m List.mem_cons_self)
        · rcases List.mem_cons.mp member with rfl | member
          · exact Simulation.alike_equal insideBody
          · exact Simulation.alike_equal (outer m (List.mem_cons_of_mem _ member))
  · refine (Simulation.ofOperator (S := .equal) asks logs ?_ .host).related
    rw [List.forall₂_same]
    exact fun m member => Simulation.alike_equal (outer m member)

/-- Hosts that agree on what the nodes outside of bodies look up give one run. -/
theorem eval_eq_of_outerNodes {P : String → Option Nat → Prop}
    (agree : ∀ name slot, P name slot → a name slot = b name slot) (e : Expr)
    (outer : ∀ node ∈ e.outerNodes, Simulation.LooksUp P node) :
    e.eval (.host a) = e.eval (.host b) := by
  induction e using Expr.induct with
  | literal value => rfl
  | array items ih =>
      simp only [Expr.outerNodes, Expr.outerNodesEach_eq, List.forall_mem_cons,
        List.mem_flatMap] at outer
      have each : ∀ m ∈ items.map Expr.eval, m (.host a) = m (.host b) := by
        simp only [List.forall_mem_map]
        exact fun e member => ih e member fun node below => outer.2 node ⟨e, member, below⟩
      have all : List.Forall₂ (Simulation.equal.Alike a b) (items.map Expr.eval)
          (items.map Expr.eval) :=
        List.forall₂_same.mpr fun m member => Simulation.alike_equal (each m member)
      have values : Meaning.each (items.map Expr.eval) (.host a)
          = Meaning.each (items.map Expr.eval) (.host b) := (Simulation.each all .host).related
      simp only [Expr.eval, Expr.evalEach_eq, values]
  | var operand slot ih =>
      simp only [Expr.outerNodes, List.forall_mem_cons] at outer
      have lookups {σ τ : Scope} (paired : Scope.Paired Simulation.equal.Good a b σ τ)
          (name : String) (slot : Option Nat) (asked : P name slot) :
          Simulation.equal.Ends Simulation.equal.Good (σ.lookup name slot)
            (τ.lookup name (slot.map id)) := by
        rw [Option.map_id_apply]
        refine ⟨?_, fun _ _ => trivial⟩
        cases paired with
        | host =>
            show (Scope.host a).lookup name slot = (Scope.host b).lookup name slot
            simp only [Scope.lookup, agree name slot asked]
        | element => rfl
      have name : Simulation.equal.Alike a b operand.eval (operand.renumber id).eval := by
        rw [Expr.renumber_id]
        exact Simulation.alike_equal (ih outer.2)
      have same := (Simulation.eval_var id lookups outer.1 name .host).related
      rw [Expr.renumber_id, Option.map_id_apply] at same
      exact same
  | regex pattern subject compiled ihPattern ihSubject =>
      simp only [Expr.outerNodes, List.forall_mem_cons, List.forall_mem_append] at outer
      exact (Simulation.matching (S := .equal) (Simulation.alike_equal (ihPattern outer.2.1))
        (Simulation.alike_equal (ihSubject outer.2.2)) compiled .host).related
  | call op operands ih =>
      simp only [Expr.outerNodes_call, List.forall_mem_cons, List.mem_flatMap] at outer
      simp only [Expr.eval, Expr.evalEach_eq]
      refine ofOperator_eq_of_outerOperands outer.1 ?_
      rw [Operator.outerOperands_map, List.forall_mem_map]
      exact fun e member => ih e (Operator.mem_of_mem_outerOperands member) fun node below =>
        outer.2 node ⟨e, member, below⟩

end Outer

end JsonRules
