/-
# JsonRules.Proofs.Loops -- array operators as loops

An operator with a body runs its array first, and then depends only on the value that comes out
(`Expr.eval_call_of_array`).  From there on it is a loop over the elements: `map` and `reduce` are
loops of the library, `filter` is `Meaning.keepWhere`, and all quantifiers are one search that stops
at the first element that decides (`Meaning.quantify_eq`).
-/
import JsonRules.Proofs.Bodies
import JsonRules.Proofs.Outcomes

namespace JsonRules

set_option autoImplicit false

namespace Run

variable {α β : Type} {run : Run α}

/-- What follows a result comes after what happened before. -/
theorem bind_of_ok {result : α} (ended : run.outcome = .ok result) (next : α → Run β) :
    run >>= next = ⟨run.events ++ (next result).events, (next result).outcome⟩ := by
  obtain ⟨events, outcome⟩ := run
  cases ended
  rfl

/-- Nothing follows a fault. -/
theorem bind_of_error {fault : Fault} (ended : run.outcome = .error fault) (next : α → Run β) :
    run >>= next = ⟨run.events, .error fault⟩ := by
  obtain ⟨events, outcome⟩ := run
  cases ended
  rfl

theorem events_map (f : α → β) (run : Run α) : (f <$> run).events = run.events := by
  obtain ⟨events, outcome⟩ := run
  cases outcome with
  | error fault => rfl
  | ok result => exact List.append_nil events

theorem outcome_map (f : α → β) (run : Run α) : (f <$> run).outcome = f <$> run.outcome := by
  obtain ⟨events, outcome⟩ := run
  cases outcome <;> rfl

end Run

/-- A fault is not touched by what is done with a result. -/
theorem error_of_map_eq_error {α β : Type} {f : α → β} {outcome : Except Fault α} {fault : Fault}
    (ended : f <$> outcome = .error fault) : outcome = .error fault := by
  cases outcome with
  | error fault =>
      cases ended
      rfl
  | ok a => cases ended

/-! ## Quantifiers -/

namespace Quantifier

/-- The answer of a test that decides. -/
def decisive : Quantifier → Bool
  | all => false
  | none | some => true

/-- What is said of the elements when one of them has decided, or when none has. -/
def verdict : Quantifier → Bool → Bool
  | some, decided => decided
  | all, decided | none, decided => !decided

end Quantifier

namespace Meaning

variable {kind : Quantifier} {test : Value → Run Bool} {items : List Value}

/-- Looks for an item with a certain answer; no item is looked at after the first one. -/
def meets (test : Value → Run Bool) (answer : Bool) : List Value → Run Bool
  | [] => return false
  | item :: rest => do
      if (← test item) = answer then return true else meets test answer rest

theorem anyM_eq_meets (test : Value → Run Bool) (items : List Value) :
    items.anyM test = meets test true items := by
  induction items with
  | nil => rfl
  | cons item rest ih =>
      rw [List.anyM_cons, meets]
      refine bind_congr fun answer => ?_
      cases answer with
      | true => rfl
      | false => exact ih

theorem allM_eq_meets (test : Value → Run Bool) (items : List Value) :
    items.allM test = (! ·) <$> meets test false items := by
  induction items with
  | nil => rfl
  | cons item rest ih =>
      rw [List.allM_cons, meets, map_bind]
      refine bind_congr fun answer => ?_
      cases answer with
      | true => exact ih
      | false => rfl

/-- Every quantifier is a search for an element that decides, except that not all elements of an
empty array satisfy the test. -/
theorem quantify_eq (nonempty : kind = .all → items ≠ []) :
    quantify kind test items = kind.verdict <$> meets test kind.decisive items := by
  cases kind with
  | all =>
      rw [quantify, if_neg (by rw [List.isEmpty_iff]; exact nonempty rfl)]
      exact allM_eq_meets test items
  | none =>
      rw [quantify, anyM_eq_meets, bind_pure_comp]
      rfl
  | some =>
      rw [quantify, anyM_eq_meets]
      exact (id_map _).symm

end Meaning

/-! ## Arrays that are at hand -/

variable [PatternEngine]

namespace Expr

variable (body : Expr) (rest : List Expr) (items : List Value) (scope : Scope)

/-- An operator with a body runs its array, and then does what it does with the value. -/
theorem eval_call_of_array {op : Operator} (hasBody : op.hasBody = true) (array : Expr) :
    (call op (array :: body :: rest)).eval scope
      = array.eval scope >>= fun value =>
          (call op (literal value :: body :: rest)).eval scope := by
  have at_hand (op : Operator) :
      Meaning.elements op array.eval scope
        = array.eval scope >>= fun value => Meaning.elements op (literal value).eval scope := rfl
  cases op with
  | map | filter | reduce | quantifier kind =>
      show (Meaning.elements _ array.eval scope >>= _) = _
      rw [at_hand, bind_assoc]
      rfl
  | _ => cases hasBody

theorem eval_map_literal :
    (call .map (literal (.array items) :: body :: rest)).eval scope
      = .array <$> items.mapM fun item => body.eval (.element item) := by
  rw [map_eq_pure_bind]
  exact pure_bind items _

theorem eval_filter_literal :
    (call .filter (literal (.array items) :: body :: rest)).eval scope
      = .array <$> Meaning.keepWhere (Meaning.holds .filter body.eval) items := by
  rw [map_eq_pure_bind]
  exact pure_bind items _

theorem eval_reduce_literal :
    (call .reduce (literal (.array items) :: body :: rest)).eval scope
      = (rest.head?.elim (pure .null) fun initial => initial.eval scope) >>= fun start =>
          items.foldlM (fun accumulator current => body.eval (Scope.reduction accumulator current))
            start := by
  cases rest with
  | nil => exact pure_bind items _
  | cons initial rest => exact pure_bind items _

theorem eval_quantifier_literal (kind : Quantifier) :
    (call (.quantifier kind) (literal (.array items) :: body :: rest)).eval scope
      = .bool <$> Meaning.quantify kind (Meaning.holds (.quantifier kind) body.eval) items := by
  rw [map_eq_pure_bind]
  exact pure_bind items _

end Expr

end JsonRules
