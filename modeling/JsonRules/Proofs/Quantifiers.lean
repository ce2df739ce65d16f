/-
# JsonRules.Proofs.Quantifiers -- quantifiers against filter

A quantifier stops where it has decided, and a filter goes on to the end.  Both put the same body to
the elements, so their tests are alike up to the operator that a fault names (`Run.Alike`,
`Meaning.alike_holds`).  Element by element it follows that the search does nothing that the filter
does not do (`meets_within_keepWhere`), that it finds an element where the filter keeps or drops one
(`outcome_meets`, `outcome_keepWhere`), and that a fault which stops the search stops the filter at
the same element (`exists_faultsAt_of_meets`, `keepWhere_of_faultsAt`).
-/
import JsonRules.Libraries
import JsonRules.Proofs.Loops

namespace JsonRules

set_option autoImplicit false

section

/-! ## Alike up to the name of an operator -/

/-- The two faults are the same one, or each is a fault about the same kinds and names its own of the
two operators. -/
inductive Fault.Alike (op other : Operator) : Fault → Fault → Prop where
  | same (fault : Fault) : Alike op other fault fault
  | named (kinds : List Kind) : Alike op other (.type op kinds) (.type other kinds)

/-- The same happens in two runs, and they end alike. -/
structure Run.Alike (op other : Operator) {α : Type} (r s : Run α) : Prop where
  events : r.events = s.events
  result : ∀ a, r.outcome = .ok a → s.outcome = .ok a
  fault : ∀ f, r.outcome = .error f → ∃ g, s.outcome = .error g ∧ Fault.Alike op other f g

theorem Coercion.toTruth_eq_ok_iff {op : Operator} {value : Value} {truth : Bool} :
    toTruth op value = .ok truth ↔ value.truth? = some truth := by
  unfold toTruth
  cases value.truth? <;> simp

theorem Coercion.toTruth_eq_error_iff {op : Operator} {value : Value} {fault : Fault} :
    toTruth op value = .error fault ↔ value.truth? = none ∧ fault = .type op [value.kind] := by
  unfold toTruth
  cases value.truth? <;> simp [eq_comm]

/-- The quantifier holds of items, going by those that a filter keeps. -/
def Quantifier.holdsOf (items kept : List Value) : Quantifier → Bool
  | all => decide (items ≠ [] ∧ kept = items)
  | none => decide (kept = [])
  | some => decide (kept ≠ [])

/-- The body has a true value for an element. -/
def Expr.satisfied [PatternEngine] (body : Expr) (element : Value) : Bool :=
  match (body.eval (.element element)).outcome with
  | .ok value => value.truth? == some true
  | .error _ => false

namespace Meaning

variable {op other : Operator} {p q : Value → Run Bool} {items : List Value}

theorem holds_eq (op : Operator) (body : Meaning) (element : Value) :
    holds op body element
      = ⟨(body (.element element)).events,
          (body (.element element)).outcome >>= Coercion.toTruth op⟩ := by
  unfold holds truth
  obtain ⟨events, outcome⟩ := body (.element element)
  cases outcome with
  | error fault => rfl
  | ok value => exact congrArg (Run.mk · _) (List.append_nil events)

/-- What operators ask of an element differs only in the operator that a fault names. -/
theorem alike_holds (op other : Operator) (body : Meaning) (element : Value) :
    Run.Alike op other (holds op body element) (holds other body element) := by
  rw [holds_eq, holds_eq]
  generalize body (.element element) = run
  obtain ⟨events, outcome⟩ := run
  cases outcome with
  | error fault => exact ⟨rfl, fun _ ended => (nomatch ended), fun f ended => ⟨f, ended, .same f⟩⟩
  | ok value =>
      refine ⟨rfl, fun answer ended => ?_, fun fault ended => ?_⟩
      · exact Coercion.toTruth_eq_ok_iff.mpr (Coercion.toTruth_eq_ok_iff.mp ended)
      · obtain ⟨untrue, rfl⟩ := Coercion.toTruth_eq_error_iff.mp ended
        exact ⟨_, Coercion.toTruth_eq_error_iff.mpr ⟨untrue, rfl⟩, .named _⟩

/-- A test has an answer only if the body has a value with a truth. -/
theorem exists_truth_of_holds [PatternEngine] {body : Expr} {element : Value} {answer : Bool}
    (ended : (holds op body.eval element).outcome = .ok answer) :
    ∃ value, (body.eval (.element element)).outcome = .ok value ∧ value.truth? = some answer := by
  rw [holds_eq] at ended
  obtain ⟨value, gives, true⟩ := exists_of_bind_eq_ok ended
  exact ⟨value, gives, Coercion.toTruth_eq_ok_iff.mp true⟩

/-- The answer of a test is whether the body has a true value. -/
theorem satisfied_of_holds [PatternEngine] {body : Expr} {element : Value} {answer : Bool}
    (ended : (holds op body.eval element).outcome = .ok answer) :
    body.satisfied element = answer := by
  obtain ⟨value, gives, spelled⟩ := exists_truth_of_holds ended
  rw [Expr.satisfied, gives]
  show (value.truth? == some true) = answer
  rw [spelled]
  cases answer <;> rfl

/-! ## One loop against the other -/

/-- A search does nothing that a filter does not do. -/
theorem meets_within_keepWhere (alike : ∀ item, Run.Alike op other (p item) (q item)) (answer : Bool)
    (items : List Value) :
    (meets p answer items).events <+: (keepWhere q items).events := by
  induction items with
  | nil => exact List.prefix_rfl
  | cons item rest ih =>
      rw [meets, keepWhere]
      cases ended : (p item).outcome with
      | error fault =>
          obtain ⟨fault', ended', -⟩ := (alike item).fault fault ended
          rw [Run.bind_of_error ended, Run.bind_of_error ended']
          exact ⟨[], (List.append_nil _).trans (alike item).events⟩
      | ok kept =>
          rw [Run.bind_of_ok ended, Run.bind_of_ok ((alike item).result kept ended),
            (alike item).events, List.prefix_append_right_inj, bind_pure_comp, Run.events_map]
          split
          · exact List.nil_prefix
          · exact ih

/-- A filter with a result has an answer for every item. -/
theorem exists_answer_of_keepWhere {kept : List Value}
    (ended : (keepWhere q items).outcome = .ok kept) :
    ∀ item ∈ items, ∃ answer, (q item).outcome = .ok answer := by
  induction items generalizing kept with
  | nil => exact fun item mem => nomatch mem
  | cons item rest ih =>
      obtain ⟨answer, first, ended⟩ := Run.exists_of_bind_ok ended
      obtain ⟨others, later, -⟩ := Run.exists_of_bind_ok ended
      exact List.forall_mem_cons.mpr ⟨⟨answer, first⟩, ih later⟩

/-- What a filter keeps if every item has an answer. -/
theorem outcome_keepWhere {truth : Value → Bool}
    (answers : ∀ item ∈ items, (q item).outcome = .ok (truth item)) :
    (keepWhere q items).outcome = .ok (items.filter truth) := by
  induction items with
  | nil => rfl
  | cons item rest ih =>
      obtain ⟨first, later⟩ := List.forall_mem_cons.mp answers
      rw [keepWhere, Run.outcome_bind_ok _ first, Run.outcome_bind_ok _ (ih later),
        List.filter_cons]
      rfl

/-- What a search finds if every item has an answer. -/
theorem outcome_meets {truth : Value → Bool} (answer : Bool)
    (answers : ∀ item ∈ items, (p item).outcome = .ok (truth item)) :
    (meets p answer items).outcome = .ok (items.any fun item => truth item == answer) := by
  induction items with
  | nil => rfl
  | cons item rest ih =>
      obtain ⟨first, later⟩ := List.forall_mem_cons.mp answers
      rw [meets, Run.outcome_bind_ok _ first, List.any_cons]
      by_cases decided : truth item = answer
      · rw [if_pos decided, decided, beq_self_eq_true, Bool.true_or]
        rfl
      · rw [if_neg decided, ih later, beq_false_of_ne decided, Bool.false_or]

/-! ## Where a loop stops with a fault -/

/-- The test has an answer for all items before a position, and ends with the fault for the item that
stands there. -/
structure FaultsAt (test : Value → Run Bool) (items : List Value) (position : Nat) (fault : Fault) :
    Prop where
  before : ∀ item ∈ items.take position, ∃ answer, (test item).outcome = .ok answer
  here : ∃ item, items[position]? = some item ∧ (test item).outcome = .error fault

variable {item : Value} {rest : List Value} {position : Nat} {fault : Fault}

theorem FaultsAt.first (ended : (p item).outcome = .error fault) :
    FaultsAt p (item :: rest) 0 fault :=
  ⟨fun _ mem => (nomatch mem), item, rfl, ended⟩

theorem FaultsAt.later {answer : Bool} (ended : (p item).outcome = .ok answer)
    (later : FaultsAt p rest position fault) : FaultsAt p (item :: rest) (position + 1) fault :=
  ⟨List.forall_mem_cons.mpr ⟨⟨answer, ended⟩, later.before⟩, later.here⟩

/-- Tests that are alike stop at the same item. -/
theorem FaultsAt.alike (alike : ∀ item, Run.Alike op other (p item) (q item))
    (stops : FaultsAt p items position fault) :
    ∃ fault', FaultsAt q items position fault' ∧ Fault.Alike op other fault fault' := by
  obtain ⟨item, stands, ended⟩ := stops.here
  obtain ⟨fault', ended', same⟩ := (alike item).fault fault ended
  refine ⟨fault', ⟨fun item mem => ?_, item, stands, ended'⟩, same⟩
  obtain ⟨answer, ended⟩ := stops.before item mem
  exact ⟨answer, (alike item).result answer ended⟩

/-- A search ends with a fault only where its test does, and what happened is what happened in the
tests up to there. -/
theorem exists_faultsAt_of_meets {answer : Bool}
    (ended : (meets p answer items).outcome = .error fault) :
    ∃ position, FaultsAt p items position fault ∧
      (meets p answer items).events
        = (items.take (position + 1)).flatMap fun item => (p item).events := by
  induction items with
  | nil => cases ended
  | cons item rest ih =>
      rw [meets] at ended ⊢
      cases first : (p item).outcome with
      | error fault' =>
          rw [Run.bind_of_error first] at ended ⊢
          cases ended
          exact ⟨0, .first first, by simp⟩
      | ok found =>
          rw [Run.bind_of_ok first] at ended ⊢
          by_cases decided : found = answer
          · rw [if_pos decided] at ended
            cases ended
          · rw [if_neg decided] at ended ⊢
            obtain ⟨position, stops, events⟩ := ih ended
            refine ⟨position + 1, .later first stops, ?_⟩
            rw [List.take_succ_cons, List.flatMap_cons, ← events]

/-- Where its test ends with a fault a filter does, too. -/
theorem keepWhere_of_faultsAt (stops : FaultsAt q items position fault) :
    keepWhere q items
      = ⟨(items.take (position + 1)).flatMap fun item => (q item).events, .error fault⟩ := by
  induction items generalizing position with
  | nil =>
      obtain ⟨item, stands, -⟩ := stops.here
      cases stands
  | cons item rest ih =>
      rw [keepWhere]
      cases position with
      | zero =>
          obtain ⟨found, stands, ended⟩ := stops.here
          obtain rfl : item = found := Option.some.inj stands
          rw [Run.bind_of_error ended]
          simp
      | succ position =>
          obtain ⟨⟨answer, ended⟩, before⟩ := List.forall_mem_cons.mp stops.before
          rw [Run.bind_of_ok ended, bind_pure_comp, Run.events_map, Run.outcome_map,
            ih ⟨before, stops.here⟩]
          rfl

end Meaning

/-! ## Quantifiers and filter -/

namespace Expr

variable [PatternEngine] {array : Expr} {scope : Scope} {items : List Value}

/-- The operand gives an array of the items, or null for no items. -/
def Lists (array : Expr) (scope : Scope) (items : List Value) : Prop :=
  (array.eval scope).outcome = .ok (.array items) ∨
    (array.eval scope).outcome = .ok .null ∧ items = []

/-- After its array has run, an operator with a body does what it does with the items at hand. -/
theorem eval_call_of_lists {op : Operator} (hasBody : op.hasBody = true)
    (listed : array.Lists scope items) (body : Expr) (rest : List Expr) :
    (call op (array :: body :: rest)).eval scope
      = ⟨(array.eval scope).events
            ++ ((call op (literal (.array items) :: body :: rest)).eval scope).events,
          ((call op (literal (.array items) :: body :: rest)).eval scope).outcome⟩ := by
  rw [eval_call_of_array body rest scope hasBody]
  rcases listed with ended | ⟨ended, rfl⟩
  · exact Run.bind_of_ok ended _
  · -- Null has no elements, and neither has the empty array.
    have empty : (call op (literal .null :: body :: rest)).eval scope
        = (call op (literal (.array []) :: body :: rest)).eval scope := by
      cases op with
      | map | filter | reduce | quantifier kind => rfl
      | _ => cases hasBody
    rw [Run.bind_of_ok ended, empty]

variable {body : Expr}

/-- Where every item has an answer, a quantifier goes by what a filter keeps. -/
theorem outcome_quantify_of_answers {kind : Quantifier}
    (answers : ∀ item ∈ items,
      (Meaning.holds (.quantifier kind) body.eval item).outcome = .ok (body.satisfied item)) :
    (Meaning.quantify kind (Meaning.holds (.quantifier kind) body.eval) items).outcome
      = .ok (kind.holdsOf items (items.filter body.satisfied)) := by
  by_cases nonempty : kind = .all → items ≠ []
  · rw [Meaning.quantify_eq nonempty, Run.outcome_map, Meaning.outcome_meets _ answers]
    refine congrArg Except.ok ?_
    rw [Bool.eq_iff_iff]
    cases kind <;> simp [Quantifier.verdict, Quantifier.decisive, Quantifier.holdsOf, nonempty]
  · obtain ⟨rfl, empty⟩ := Classical.not_imp.mp nonempty
    rw [not_not.mp empty]
    rfl

/-- A filter with a result keeps the elements for which the body has a true value, and whatever is
asked of an element has an answer then. -/
theorem answers_of_keepWhere {kept : List Value}
    (ended : (Meaning.keepWhere (Meaning.holds .filter body.eval) items).outcome = .ok kept) :
    kept = items.filter body.satisfied ∧
      ∀ op, ∀ item ∈ items,
        (Meaning.holds op body.eval item).outcome = .ok (body.satisfied item) := by
  have answers (item) (mem : item ∈ items) :
      (Meaning.holds .filter body.eval item).outcome = .ok (body.satisfied item) := by
    obtain ⟨answer, here⟩ := Meaning.exists_answer_of_keepWhere ended item mem
    rw [here, Meaning.satisfied_of_holds here]
  constructor
  · exact Except.ok.inj (ended.symm.trans (Meaning.outcome_keepWhere answers))
  · intro op item mem
    exact (Meaning.alike_holds .filter op body.eval item).result _ (answers item mem)

theorem quantify_within_keepWhere (kind : Quantifier) (body : Expr) (items : List Value) :
    (Meaning.quantify kind (Meaning.holds (.quantifier kind) body.eval) items).events
      <+: (Meaning.keepWhere (Meaning.holds .filter body.eval) items).events := by
  by_cases nonempty : kind = .all → items ≠ []
  · rw [Meaning.quantify_eq nonempty, Run.events_map]
    exact Meaning.meets_within_keepWhere (Meaning.alike_holds _ _ body.eval) _ items
  · obtain ⟨rfl, empty⟩ := Classical.not_imp.mp nonempty
    rw [not_not.mp empty]
    exact List.nil_prefix

/-- A fault that stops a quantifier stops a filter at the same element. -/
theorem faultsAt_of_quantify {kind : Quantifier} {fault : Fault}
    (ended : (Meaning.quantify kind (Meaning.holds (.quantifier kind) body.eval) items).outcome
      = .error fault) :
    ∃ position fault',
      Meaning.FaultsAt (Meaning.holds (.quantifier kind) body.eval) items position fault ∧
      Meaning.FaultsAt (Meaning.holds .filter body.eval) items position fault' ∧
      Fault.Alike (.quantifier kind) .filter fault fault' ∧
      Meaning.keepWhere (Meaning.holds .filter body.eval) items
        = ⟨(Meaning.quantify kind (Meaning.holds (.quantifier kind) body.eval) items).events,
            .error fault'⟩ := by
  -- Over an empty array `all` has a result at once.
  have nonempty : kind = .all → items ≠ [] := by
    rintro rfl rfl
    cases ended
  rw [Meaning.quantify_eq nonempty, Run.outcome_map] at ended
  have searched := error_of_map_eq_error ended
  have alike := Meaning.alike_holds (.quantifier kind) .filter body.eval
  obtain ⟨position, stops, events⟩ := Meaning.exists_faultsAt_of_meets searched
  obtain ⟨fault', stops', same⟩ := stops.alike alike
  refine ⟨position, fault', stops, stops', same, ?_⟩
  rw [Meaning.keepWhere_of_faultsAt stops', Meaning.quantify_eq nonempty, Run.events_map, events]
  simp only [(alike _).events]

/-- **Quantifiers agree with filter.**  Over an array, or null, let a filter have a result.  Then it is
the array of the elements for which the body has a true value, in their order, and every quantifier
says of the array what follows from it.  With or without a result, a quantifier logs the beginning of
what the filter logs.  And where a quantifier ends with a fault the filter does so at the same
element, with a fault that is alike but for the operator. -/
theorem quantifiers_agree_with_filter (listed : array.Lists scope items) (body : Expr) :
    let filtered := (call .filter [array, body]).eval scope
    let quantified := fun kind => (call (.quantifier kind) [array, body]).eval scope
    (∀ value, filtered.outcome = .ok value → ∃ fs, value = .array fs ∧
      fs = items.filter body.satisfied ∧
      (∀ element ∈ items, ∃ value truth,
        (body.eval (.element element)).outcome = .ok value ∧ value.truth? = some truth) ∧
      ∀ kind, (quantified kind).outcome = .ok (.bool (kind.holdsOf items fs))) ∧
    ∀ kind, (quantified kind).logged <+: filtered.logged ∧
      ∀ fault, (quantified kind).outcome = .error fault → ∃ position fault',
        Meaning.FaultsAt (Meaning.holds (.quantifier kind) body.eval) items position fault ∧
        Meaning.FaultsAt (Meaning.holds .filter body.eval) items position fault' ∧
        Fault.Alike (.quantifier kind) .filter fault fault' ∧
        filtered.outcome = .error fault' ∧ (quantified kind).logged = filtered.logged := by
  intro filtered quantified
  have filters : filtered = _ := eval_call_of_lists rfl listed body []
  have quantifies (kind) : quantified kind = _ := eval_call_of_lists rfl listed body []
  simp only [eval_filter_literal, eval_quantifier_literal, Run.events_map, Run.outcome_map]
    at filters quantifies
  rw [filters]
  refine ⟨fun value ended => ?_, fun kind => ?_⟩
  · obtain ⟨fs, kept, rfl⟩ := exists_of_map_eq_ok ended
    obtain ⟨same, answers⟩ := answers_of_keepWhere kept
    refine ⟨fs, rfl, same, fun element mem => ?_, fun kind => ?_⟩
    · obtain ⟨value, gives, spelled⟩ := Meaning.exists_truth_of_holds (answers .filter element mem)
      exact ⟨value, _, gives, spelled⟩
    · rw [quantifies, outcome_quantify_of_answers (answers _), same]
      rfl
  · rw [quantifies]
    constructor
    · have within := quantify_within_keepWhere kind body items
      exact ((List.prefix_append_right_inj _).mpr within).filterMap _
    · intro fault ended
      obtain ⟨position, fault', stops, stops', same, whole⟩ :=
        faultsAt_of_quantify (error_of_map_eq_error ended)
      exact ⟨position, fault', stops, stops', same, by rw [whole]; rfl, by rw [whole]; rfl⟩

/-- Logs an element and goes by its truth. -/
def logsElement : Expr := .call .log [.var (.literal (.string "")) none]

end Expr

end

namespace Expr

/-- Of three numbers one is true; and an object, which has no truth, stops `none` and the filter
alike. -/
theorem quantifiers_agree_with_filter_logged :
    let numbers := [Value.int 0, .int 3, .int 0]
    let things := [Value.int 0, .object [], .int 3]
    let onItems (op : Operator) (items : List Value) : Run Value :=
      (call op [.literal (.array items), logsElement]).eval (.element .null)
    (∀ items, (literal (.array items)).Lists (.element .null) items) ∧
      (onItems .filter numbers).outcome = .ok (.array [Value.int 3]) ∧
      (∀ kind, (onItems (.quantifier kind) numbers).outcome
        = .ok (.bool (kind.holdsOf numbers [Value.int 3]))) ∧
      (onItems (.quantifier .some) numbers).logged = [Value.int 0, .int 3] ∧
      (onItems (.quantifier .some) numbers).logged <+: (onItems .filter numbers).logged ∧
      (onItems (.quantifier .none) things).outcome
        = .error (.type (.quantifier .none) [.object]) ∧
      ∃ fault', Fault.Alike (.quantifier .none) .filter
          (.type (.quantifier .none) [.object]) fault' ∧
        (onItems .filter things).outcome = .error fault' ∧
        (onItems (.quantifier .none) things).logged = (onItems .filter things).logged := by
  intro numbers things onItems
  have listed (items : List Value) : (literal (.array items)).Lists (.element .null) items :=
    .inl rfl
  have plain := quantifiers_agree_with_filter (listed numbers) logsElement
  have broken := quantifiers_agree_with_filter (listed things) logsElement
  have filtered : (onItems .filter numbers).outcome = .ok (.array [Value.int 3]) := by decide
  have stopped : (onItems (.quantifier .none) things).outcome
      = .error (.type (.quantifier .none) [.object]) := by decide
  obtain ⟨_, ⟨⟩, -, -, quantified⟩ := plain.1 _ filtered
  obtain ⟨-, fault', -, -, same, ended, logged⟩ := (broken.2 .none).2 _ stopped
  exact ⟨listed, filtered, quantified, by decide, (plain.2 .some).1, stopped, fault', same, ended,
    logged⟩

end Expr

end JsonRules
