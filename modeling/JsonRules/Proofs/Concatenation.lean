/-
# JsonRules.Proofs.Concatenation -- array operators over two arrays in a row

A loop over two arrays in a row is the loop over the first one and then, unless it has stopped, the
loop over the second.  For `map` and `reduce` the library knows that; `keepWhere_append`,
`meets_append` and `quantify_append` are the same for the loops of filters and quantifiers.

`Run.Splits` spells out what the equations say of the runs: what happens, where they end, and how the
two results are joined.
-/
import JsonRules.Libraries
import JsonRules.Proofs.Loops

namespace JsonRules

set_option autoImplicit false

section

/-! ## Runs in two parts -/

/-- A run has two parts.  Their results have the form `wrap a`, and some results of the first part
decide.  The whole is the first part if that ends with a fault or decides; otherwise the second part
follows, which may depend on the result of the first, and the two results are joined.  What happens
in the two parts follows on each other, and so do their logs (`Splits.logged`). -/
structure Run.Splits {α : Type} (wrap : α → Value) (decides : α → Bool) (join : α → α → α)
    (whole first : Run Value) (second : α → Run Value) : Prop where
  fault : ∀ f, first.outcome = .error f → whole = first
  result : ∀ value, first.outcome = .ok value → ∃ a, value = wrap a
  decided : ∀ a, first.outcome = .ok (wrap a) → decides a = true → whole = first
  events : ∀ a, first.outcome = .ok (wrap a) → decides a = false →
    whole.events = first.events ++ (second a).events
  faultAfter : ∀ a, first.outcome = .ok (wrap a) → decides a = false →
    ∀ f, (second a).outcome = .error f → whole.outcome = .error f
  joined : ∀ a, first.outcome = .ok (wrap a) → decides a = false →
    ∀ value, (second a).outcome = .ok value →
      ∃ b, value = wrap b ∧ whole.outcome = .ok (wrap (join a b))

namespace Run.Splits

variable {α : Type} {wrap : α → Value} {decides : α → Bool} {join : α → α → α}

/-- The log of the whole is the log of the first part followed by the log of the second. -/
theorem logged {whole first : Run Value} {second : α → Run Value}
    (splits : Splits wrap decides join whole first second) {a : α}
    (ended : first.outcome = .ok (wrap a)) (undecided : decides a = false) :
    whole.logged = first.logged ++ (second a).logged := by
  rw [Run.logged, splits.events a ended undecided, List.filterMap_append]
  rfl

/-- A loop that goes on with the rest unless it has decided splits. -/
theorem of_bind (injective : Function.Injective wrap) (first : Run α) (second : α → Run α) :
    Splits wrap decides join
      (wrap <$> (first >>= fun a => if decides a then pure a else join a <$> second a))
      (wrap <$> first) (fun a => wrap <$> second a) := by
  have exists_result {value : Value} (ok : (wrap <$> first).outcome = .ok value) :
      ∃ a, first.outcome = .ok a ∧ wrap a = value := by
    rw [outcome_map] at ok
    exact exists_of_map_eq_ok ok
  -- Different results have different forms, so the form of a result tells which one it is.
  have result {a : α} (ok : (wrap <$> first).outcome = .ok (wrap a)) : first.outcome = .ok a := by
    obtain ⟨b, ended, same⟩ := exists_result ok
    rw [ended, injective same]
  have goesOn {a : α} (ok : (wrap <$> first).outcome = .ok (wrap a))
      (undecided : decides a = false) :
      (first >>= fun a => if decides a then pure a else join a <$> second a)
        = ⟨first.events ++ (second a).events, join a <$> (second a).outcome⟩ := by
    rw [bind_of_ok (result ok), undecided, if_neg Bool.false_ne_true, events_map, outcome_map]
  refine ⟨fun f failed => ?_, fun value ok => ?_, fun a ok decision => ?_, fun a ok undecided => ?_,
    fun a ok undecided f failed => ?_, fun a ok undecided value ok' => ?_⟩
  · rw [outcome_map] at failed
    have failed := error_of_map_eq_error failed
    rw [map_eq_pure_bind, map_eq_pure_bind, bind_of_error failed, bind_of_error failed]
    rfl
  · obtain ⟨a, -, same⟩ := exists_result ok
    exact ⟨a, same.symm⟩
  · refine congrArg (wrap <$> ·) (Eq.trans ?_ (bind_pure first))
    refine bind_congr_ok fun b ended => ?_
    obtain rfl : a = b := Except.ok.inj ((result ok).symm.trans ended)
    rw [decision, if_pos rfl]
  · rw [goesOn ok undecided, events_map, events_map, events_map]
  · rw [outcome_map] at failed
    rw [goesOn ok undecided, outcome_map, error_of_map_eq_error failed]
    rfl
  · rw [outcome_map] at ok'
    obtain ⟨b, ended, rfl⟩ := exists_of_map_eq_ok ok'
    refine ⟨b, rfl, ?_⟩
    rw [goesOn ok undecided, outcome_map, ended]
    rfl

/-- A loop that never decides splits. -/
theorem of_bind_always (injective : Function.Injective wrap) (first : Run α) (second : α → Run α) :
    Splits wrap (fun _ => false) join (wrap <$> (first >>= fun a => join a <$> second a))
      (wrap <$> first) (fun a => wrap <$> second a) :=
  of_bind injective first second

end Run.Splits

/-! ## Loops over two lists in a row -/

namespace Quantifier

/-- How a quantifier joins what holds of one array with what holds of another. -/
def join : Quantifier → Bool → Bool → Bool
  | some, a, b => a || b
  | all, a, b | none, a, b => a && b

/-- What a quantifier finds tells whether an element has decided. -/
theorem verdict_verdict (kind : Quantifier) (decided : Bool) :
    kind.verdict (kind.verdict decided) = decided := by
  cases kind <;> cases decided <;> rfl

/-- An array in which no element decides leaves the matter to the other array. -/
theorem join_undecided (kind : Quantifier) : kind.join (kind.verdict false) = id := by
  funext holds
  cases kind <;> cases holds <;> rfl

end Quantifier

namespace Meaning

variable {test : Value → Run Bool} {kind : Quantifier}

theorem keepWhere_append (test : Value → Run Bool) (xs ys : List Value) :
    keepWhere test (xs ++ ys)
      = keepWhere test xs >>= fun kept => (kept ++ ·) <$> keepWhere test ys := by
  induction xs with
  | nil =>
      rw [keepWhere, pure_bind]
      exact (id_map _).symm
  | cons item rest ih =>
      rw [List.cons_append, keepWhere, keepWhere, ih]
      simp only [bind_assoc, map_eq_pure_bind, pure_bind]
      refine bind_congr fun kept => bind_congr fun others => bind_congr fun later => ?_
      cases kept <;> rfl

/-- A search that has found nothing in the first list goes on in the second. -/
theorem meets_append (test : Value → Run Bool) (answer : Bool) (xs ys : List Value) :
    meets test answer (xs ++ ys)
      = meets test answer xs >>= fun found =>
          if found then pure true else meets test answer ys := by
  induction xs with
  | nil =>
      rw [meets, pure_bind]
      rfl
  | cons item rest ih =>
      rw [List.cons_append, meets, meets, ih, bind_assoc]
      refine bind_congr fun given => ?_
      split
      · rw [pure_bind]
        rfl
      · rfl

/-- A quantifier splits, except over empty arrays if all elements are asked for. -/
theorem quantify_append {xs ys : List Value} (nonempty : kind = .all → xs ≠ [] ∧ ys ≠ []) :
    quantify kind test (xs ++ ys)
      = quantify kind test xs >>= fun a =>
          if kind.verdict a then pure a else kind.join a <$> quantify kind test ys := by
  -- An empty part would be false for `all`, and the whole need not be.
  have nonempty_append : kind = .all → xs ++ ys ≠ [] := fun isAll =>
    List.append_ne_nil_of_left_ne_nil (nonempty isAll).1 ys
  rw [quantify_eq nonempty_append, quantify_eq fun isAll => (nonempty isAll).1,
    quantify_eq fun isAll => (nonempty isAll).2, meets_append, map_bind, bind_map_left]
  refine bind_congr fun found => ?_
  rw [Quantifier.verdict_verdict]
  cases found with
  | true => exact map_pure _ true
  | false =>
      rw [if_neg Bool.false_ne_true, if_neg Bool.false_ne_true, Quantifier.join_undecided]
      exact (id_map _).symm

end Meaning

/-! ## Array operators -/

variable [PatternEngine]

namespace Expr

/-- A reduction over two arrays in a row takes what came out for the first to the second. -/
theorem eval_reduce_append (xs ys : List Value) (body : Expr) (initial : List Expr) (scope : Scope) :
    (call .reduce (literal (.array (xs ++ ys)) :: body :: initial)).eval scope
      = (call .reduce (literal (.array xs) :: body :: initial)).eval scope >>= fun seed =>
          (call .reduce [literal (.array ys), body, literal seed]).eval scope := by
  have seeded (seed : Value) : (call .reduce [literal (.array ys), body, literal seed]).eval scope
      = ys.foldlM (fun accumulator current => body.eval (Scope.reduction accumulator current))
          seed := by
    rw [eval_reduce_literal]
    exact pure_bind seed _
  simp only [seeded]
  simp only [eval_reduce_literal, List.foldlM_append, bind_assoc]

theorem splits_quantifier (kind : Quantifier) {xs ys : List Value} (body : Expr) (scope : Scope)
    (nonempty : kind = .all → xs ≠ [] ∧ ys ≠ []) :
    Run.Splits .bool kind.verdict kind.join
      ((call (.quantifier kind) [literal (.array (xs ++ ys)), body]).eval scope)
      ((call (.quantifier kind) [literal (.array xs), body]).eval scope)
      fun _ => (call (.quantifier kind) [literal (.array ys), body]).eval scope := by
  rw [eval_quantifier_literal, eval_quantifier_literal, eval_quantifier_literal,
    Meaning.quantify_append nonempty]
  exact .of_bind (fun a b same => by cases same; rfl) _ _

/-- **Array operators split over concatenation.**  What `map` and `filter` give for two arrays in a row
is what they give for the first followed by what they give for the second; a reduction goes on with
what came out for the first array; `some` holds of the whole if it holds of a part, and `none`, or
`all` over arrays that are not empty, if it holds of both parts.  The second part does not run where
the first one ends with a fault or decides. -/
theorem array_operators_split (xs ys : List Value) (body : Expr) (scope : Scope) :
    let onItems (op : Operator) (initial : List Expr) (items : List Value) : Run Value :=
      (call op (literal (.array items) :: body :: initial)).eval scope
    Run.Splits .array (fun _ => false) (· ++ ·)
      (onItems .map [] (xs ++ ys)) (onItems .map [] xs) (fun _ => onItems .map [] ys) ∧
    Run.Splits .array (fun _ => false) (· ++ ·)
      (onItems .filter [] (xs ++ ys)) (onItems .filter [] xs) (fun _ => onItems .filter [] ys) ∧
    (∀ initial, Run.Splits id (fun _ => false) (fun _ last => last)
      (onItems .reduce initial (xs ++ ys)) (onItems .reduce initial xs)
      (fun seed => onItems .reduce [literal seed] ys)) ∧
    Run.Splits .bool (fun holds => holds) (· || ·)
      (onItems (.quantifier .some) [] (xs ++ ys)) (onItems (.quantifier .some) [] xs)
      (fun _ => onItems (.quantifier .some) [] ys) ∧
    Run.Splits .bool (fun holds => !holds) (· && ·)
      (onItems (.quantifier .none) [] (xs ++ ys)) (onItems (.quantifier .none) [] xs)
      (fun _ => onItems (.quantifier .none) [] ys) ∧
    (xs ≠ [] → ys ≠ [] → Run.Splits .bool (fun holds => !holds) (· && ·)
      (onItems (.quantifier .all) [] (xs ++ ys)) (onItems (.quantifier .all) [] xs)
      (fun _ => onItems (.quantifier .all) [] ys)) := by
  intro onItems
  have arrays : Function.Injective (Doc.array : List Value → Value) := fun a b same => by
    cases same
    rfl
  refine ⟨?_, ?_, fun initial => ?_, ?_, ?_, fun nonempty nonempty' => ?_⟩
  · simp only [onItems, eval_map_literal, List.mapM_append, bind_pure_comp]
    exact .of_bind_always arrays _ _
  · simp only [onItems, eval_filter_literal, Meaning.keepWhere_append]
    exact .of_bind_always arrays _ _
  · have splits : Run.Splits id (fun _ => false) (fun _ last => last) _ _ _ :=
      .of_bind_always Function.injective_id (onItems .reduce initial xs)
        fun seed => onItems .reduce [literal seed] ys
    simp only [id_map, id_map'] at splits
    rw [← eval_reduce_append] at splits
    exact splits
  · exact splits_quantifier .some body scope nofun
  · exact splits_quantifier .none body scope nofun
  · exact splits_quantifier .all body scope fun _ => ⟨nonempty, nonempty'⟩

/-- Logs an element, and gives it back. -/
def notesElement : Expr := .call .log [.var (.literal .null) none]

end Expr

end

namespace Expr

/-- The second of three numbers is false, so `all` does not come to the third; `map` does. -/
theorem array_operators_split_decided :
    let onItems (op : Operator) (items : List Value) : Run Value :=
      (call op [literal (.array items), notesElement]).eval (.element .null)
    let xs := [Value.int 1, .int 0]
    let ys := [Value.int 2]
    xs ≠ [] ∧ ys ≠ [] ∧
      (onItems (.quantifier .all) xs).outcome = .ok (.bool false) ∧
      onItems (.quantifier .all) (xs ++ ys) = onItems (.quantifier .all) xs ∧
      (onItems .map xs).outcome = .ok (.array xs) ∧
      (onItems .map (xs ++ ys)).logged = (onItems .map xs).logged ++ (onItems .map ys).logged ∧
      ∃ b, (onItems .map ys).outcome = .ok (.array b) ∧
        (onItems .map (xs ++ ys)).outcome = .ok (.array (xs ++ b)) := by
  intro onItems xs ys
  have nonempty : xs ≠ [] := nofun
  have nonempty' : ys ≠ [] := nofun
  obtain ⟨map, -, -, -, -, all⟩ := array_operators_split xs ys notesElement (.element .null)
  have decided : (onItems (.quantifier .all) xs).outcome = .ok (.bool false) := by decide
  have first : (onItems .map xs).outcome = .ok (.array xs) := by decide
  have second : (onItems .map ys).outcome = .ok (.array ys) := by decide
  obtain ⟨b, same, joined⟩ := map.joined xs first rfl _ second
  exact ⟨nonempty, nonempty', decided, (all nonempty nonempty').decided false decided rfl, first,
    map.logged first rfl, b, same ▸ second, joined⟩

end Expr

end JsonRules
