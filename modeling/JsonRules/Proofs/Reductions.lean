/-
# JsonRules.Proofs.Reductions -- reductions by a fold

A reduction whose body folds the accumulator with the current element does what the fold does with
all the values at once, but in its own way: the accumulator is looked up in a record, and every step
converts it again.  What a fold joins has a form (`Fold.Form`): it is null or a number, a text, or
an array.  Joining gives values of this form (`Meaning.form_of_join`) and converting leaves them as
they are (`Meaning.convert_of_form`), so after the first step the two loops go on alike
(`Meaning.foldlM_joinBoth`).

Only what a reduction starts with may have another form.  The first step converts it; without an
element it stays as it is, and then it has to have the form.
-/
import JsonRules.Libraries
import JsonRules.Proofs.Quantifiers
import JsonRules.Proofs.Rows

namespace JsonRules

set_option autoImplicit false

section

attribute [local irreducible] Word.int? Word.uint?

/-- Null or a number. -/
def Scalar.IsArithmetic : Scalar → Prop
  | null | int _ | uint _ | double _ => True
  | bool _ | string _ => False

/-- The form in which a fold joins values: null and numbers, texts, or arrays. -/
def Fold.Form : Fold → Value → Prop
  | concat, value => ∃ text, value = .string text
  | merge, value => ∃ items, value = .array items
  | sum, value | product, value | least, value | greatest, value =>
      ∃ scalar, value = .scalar scalar ∧ scalar.IsArithmetic

/-! ## What is in the form -/

theorem Scalar.isArithmetic_ofUInt (w : UInt64) : (ofUInt w).IsArithmetic := by
  unfold ofUInt
  cases Word.int? w.toNat <;> trivial

namespace NumberPair

theorem isArithmetic_exact (whole : Int → Int → Int) (double : Float → Float → Float)
    (pair : NumberPair) : (exact whole double pair).IsArithmetic := by
  unfold exact
  split
  · split <;> trivial
  · split
    · exact Scalar.isArithmetic_ofUInt _
    · trivial
  · trivial

theorem isArithmetic_least (pair : NumberPair) : pair.least.IsArithmetic := by
  unfold least
  split
  · trivial
  · exact Scalar.isArithmetic_ofUInt _
  · trivial

theorem isArithmetic_greatest (pair : NumberPair) : pair.greatest.IsArithmetic := by
  unfold greatest
  split
  · trivial
  · exact Scalar.isArithmetic_ofUInt _
  · trivial

end NumberPair

theorem Coercion.toArithmetic_of_isArithmetic {op : Operator} {scalar : Scalar}
    (number : scalar.IsArithmetic) : toArithmetic op (.scalar scalar) = .ok (.scalar scalar) := by
  cases scalar with
  | null | int | uint | double => rfl
  | bool | string => cases number

theorem Value.isArithmetic_combine {op : Operator} {result : NumberPair → Scalar}
    (makes : ∀ pair, (result pair).IsArithmetic) {a b value : Value}
    (ended : combine op result a b = .ok value) :
    ∃ scalar, value = .scalar scalar ∧ scalar.IsArithmetic := by
  obtain ⟨pair?, -, ended⟩ := exists_of_bind_eq_ok ended
  cases pair? with
  | none =>
      cases ended
      exact ⟨.null, rfl, trivial⟩
  | some pair =>
      cases ended
      exact ⟨result pair, rfl, makes pair⟩

namespace Meaning

variable {step : Fold} {a b value : Value}

theorem convert_of_form (formed : step.Form value) : convert step value = .ok value := by
  cases step with
  | concat =>
      obtain ⟨text, rfl⟩ := formed
      rfl
  | merge =>
      obtain ⟨items, rfl⟩ := formed
      rfl
  | sum | product | least | greatest =>
      obtain ⟨scalar, rfl, number⟩ := formed
      exact Coercion.toArithmetic_of_isArithmetic number

theorem form_of_join (ended : join step a b = .ok value) : step.Form value := by
  cases step with
  | sum | product => exact Value.isArithmetic_combine (NumberPair.isArithmetic_exact _ _) ended
  | least => exact Value.isArithmetic_combine NumberPair.isArithmetic_least ended
  | greatest => exact Value.isArithmetic_combine NumberPair.isArithmetic_greatest ended
  | concat | merge => exact joins_of_join ended

/-! ## Two loops over values -/

/-- A step of a fold: the next value is converted and joined with what there is. -/
def joinNext (step : Fold) (acc value : Value) : Except Fault Value := do
  join step acc (← convert step value)

/-- A step of a reduction by a fold: both values are converted and joined. -/
def joinBoth (step : Fold) (acc value : Value) : Except Fault Value := do
  joinNext step (← convert step acc) value

theorem form_of_joinNext (ended : joinNext step a b = .ok value) : step.Form value := by
  obtain ⟨converted, -, ended⟩ := exists_of_bind_eq_ok ended
  exact form_of_join ended

/-- From a value in the form on, converting the accumulator in every step changes nothing. -/
theorem foldlM_joinBoth (formed : step.Form a) (items : List Value) :
    items.foldlM (joinBoth step) a = items.foldlM (joinNext step) a := by
  induction items generalizing a with
  | nil => rfl
  | cons item rest ih =>
      have once : joinBoth step a item = joinNext step a item := by
        rw [joinBoth, convert_of_form formed]
        rfl
      rw [List.foldlM_cons, List.foldlM_cons, once]
      cases ended : joinNext step a item with
      | error fault => rfl
      | ok joined => exact ih (form_of_joinNext ended)

/-- A reduction by a fold converts what it starts with, and then goes on like the fold. -/
theorem foldlM_joinBoth_eq {seed : Value} {items : List Value}
    (formed : items = [] → step.Form seed) :
    items.foldlM (joinBoth step) seed
      = convert step seed >>= fun start => items.foldlM (joinNext step) start := by
  cases items with
  | nil =>
      rw [convert_of_form (formed rfl)]
      rfl
  | cons item rest =>
      simp only [List.foldlM_cons, joinBoth, bind_assoc]
      refine bind_congr fun start => ?_
      cases ended : joinNext step start item with
      | error fault => rfl
      | ok joined => exact foldlM_joinBoth (form_of_joinNext ended) rest

/-! ## Folds of operands with values -/

section Operands

variable {operands : List Meaning} {values : List Value} {scope : Scope} {seed : Value}

/-- In the scope the operands have the values. -/
def HaveValues (operands : List Meaning) (scope : Scope) (values : List Value) : Prop :=
  List.Forall₂ (fun operand value => (operand scope).outcome = .ok value) operands values

theorem outcome_foldlM_of_haveValues (given : HaveValues operands scope values) (acc : Value) :
    (operands.foldlM (m := Run)
      (fun acc operand => do join step acc (← folded step operand scope)) acc).outcome
        = values.foldlM (joinNext step) acc := by
  induction given generalizing acc with
  | nil => rfl
  | @cons operand value rest values here later ih =>
      have next : (do join step acc (← folded step operand scope) : Run Value).outcome
          = joinNext step acc value := by
        rw [Run.outcome_bind, folded, Run.outcome_bind_ok _ here]
        rfl
      rw [List.foldlM_cons, List.foldlM_cons, Run.outcome_bind, next]
      exact bind_congr fun joined => ih joined

theorem outcome_fold_of_haveValues (given : HaveValues operands scope (seed :: values)) :
    (fold step operands scope).outcome
      = convert step seed >>= fun start => values.foldlM (joinNext step) start := by
  obtain ⟨first, rest, here, later, rfl⟩ := List.forall₂_cons_right_iff.mp given
  rw [fold, Run.outcome_bind, folded, Run.outcome_bind_ok _ here]
  exact bind_congr fun start => outcome_foldlM_of_haveValues later start

end Operands

end Meaning

/-! ## Reductions -/

variable [PatternEngine]

namespace Expr

variable {array initial : Expr} {operands : List Expr} {scope : Scope} {items : List Value}
  {seed : Value}

/-- The body that folds the accumulator of a reduction with the current element; in a body slots are
not looked at. -/
def joining (step : Fold) (slot slot' : Option Nat) : Expr :=
  call (.fold step)
    [var (literal (.string "accumulator")) slot, var (literal (.string "current")) slot']

theorem outcome_joining (step : Fold) (slot slot' : Option Nat) (acc value : Value) :
    ((joining step slot slot').eval (Scope.reduction acc value)).outcome
      = Meaning.joinBoth step acc value := by
  have finds {name : String} {slot : Option Nat} {found : Value} (nonempty : name ≠ "")
      (entry : Entries.get? name [("accumulator", acc), ("current", value)] = some found) :
      ((var (literal (.string name)) slot).eval (Scope.reduction acc value)).outcome
        = .ok found := by
    show Except.ok ((Path.resolve? (.object [("accumulator", acc), ("current", value)]) name).getD
      .null) = .ok found
    rw [Path.resolve?_key nonempty entry]
    rfl
  have both : Meaning.HaveValues
      [(var (literal (.string "accumulator")) slot).eval,
        (var (literal (.string "current")) slot').eval]
      (Scope.reduction acc value) [acc, value] :=
    .cons (finds (by decide) rfl) (.cons (finds (by decide) rfl) .nil)
  refine (Meaning.outcome_fold_of_haveValues both).trans (bind_congr fun start => ?_)
  rw [List.foldlM_cons]
  exact bind_pure _

/-- **A reduction by a fold is the fold.**  Let an array have some items, and let operands have the
values that a reduction starts with and goes through.  Then reducing the array with a body that
folds the accumulator with the current element ends as folding the operands does, with the same
value or the same fault.  Over no items what the reduction starts with has to be in the form that
the fold joins. -/
theorem reduction_is_fold (step : Fold) (slot slot' : Option Nat)
    (listed : array.Lists scope items) (started : (initial.eval scope).outcome = .ok seed)
    (given : List.Forall₂ (fun e value => (e.eval scope).outcome = .ok value) operands
      (seed :: items))
    (formed : items = [] → step.Form seed) :
    ((call .reduce [array, joining step slot slot', initial]).eval scope).outcome
      = ((call (.fold step) operands).eval scope).outcome := by
  have reduces : ((call .reduce [array, joining step slot slot', initial]).eval scope).outcome
      = items.foldlM (Meaning.joinBoth step) seed := by
    rw [eval_call_of_lists rfl listed, eval_reduce_literal]
    refine (Run.outcome_bind_ok _ started).trans ?_
    simp only [Run.outcome_foldlM, outcome_joining]
  have folds : ((call (.fold step) operands).eval scope).outcome
      = Meaning.convert step seed >>= fun start => items.foldlM (Meaning.joinNext step) start := by
    rw [eval, evalEach_eq]
    exact Meaning.outcome_fold_of_haveValues (List.forall₂_map_left_iff.mpr given)
  rw [reduces, folds]
  exact Meaning.foldlM_joinBoth_eq formed

end Expr

end

namespace Expr

/-- A text that is read as a number, a sum that meets null, and the least of nothing. -/
theorem reduction_is_fold_mixed :
    let scope := Scope.element .null
    let reduced (step : Fold) (array : Expr) (seed : Value) : Except Fault Value :=
      ((call .reduce [array, joining step none (some 1), literal seed]).eval scope).outcome
    let folded (step : Fold) (values : List Value) : Except Fault Value :=
      ((call (.fold step) (values.map literal)).eval scope).outcome
    let items := [Value.int 3, .null, .string "4"]
    (literal (.array items)).Lists scope items ∧ (literal .null).Lists scope [] ∧
      Fold.least.Form (.int 7) ∧
      reduced .sum (literal (.array items)) (.string "2") = folded .sum (.string "2" :: items) ∧
      reduced .sum (literal (.array items)) (.string "2")
        = .error (.type (.fold .sum) [.int, .null]) ∧
      reduced .least (literal .null) (.int 7) = folded .least [.int 7] := by
  intro scope reduced folded items
  have given (values : List Value) :
      List.Forall₂ (fun e value => (e.eval scope).outcome = .ok value) (values.map literal)
        values := by
    rw [List.forall₂_map_left_iff, List.forall₂_same]
    exact fun value _ => rfl
  have listed : (literal (.array items)).Lists scope items := .inl rfl
  have empty : (literal .null).Lists scope [] := .inr ⟨rfl, rfl⟩
  have formed : Fold.least.Form (.int 7) := ⟨.int 7, rfl, trivial⟩
  exact ⟨listed, empty, formed,
    reduction_is_fold .sum none (some 1) listed rfl (given _) nofun, by decide +kernel,
    reduction_is_fold .least none (some 1) empty rfl (given _) fun _ => formed⟩

end Expr

end JsonRules
