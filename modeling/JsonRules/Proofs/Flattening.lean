/-
# JsonRules.Proofs.Flattening -- operators among their own operands

`and`, `or`, `cat` and `merge` can be nested in themselves without any effect.  Two things make it
so (`Expr.Gathers`): the operator over two groups of operands depends only on what it does over each
of them, and over nothing but itself it changes nothing.  Whatever has these two properties may take
a group of operands for one operand (`Expr.Gathers.flatten`).

A junction goes on from the first group to the second one unless the first has decided
(`gathers_junction`).  A fold of texts or of arrays joins what it has made of the groups
(`gathers_fold`); that comes to the same as joining the operands one by one, because joining is
associative and never a fault.
-/
import JsonRules.Libraries
import JsonRules.Proofs.Reductions
import JsonRules.Proofs.Shortcuts

namespace JsonRules

set_option autoImplicit false

section

namespace Expr

variable [PatternEngine]

variable {op : Operator} {kind : Junction} {step : Fold} {scope : Scope}
  {glue : Run Value → Run Value → Run Value} {xs ys : List Expr}

/-! ## Groups of operands -/

/-- In the scope the operator takes its operands in groups: over two groups it is glued together
from what it is over each of them, and over itself alone it is itself. -/
structure Gathers (op : Operator) (scope : Scope) (glue : Run Value → Run Value → Run Value) :
    Prop where
  append : ∀ {xs ys : List Expr}, xs ≠ [] → ys ≠ [] →
    (call op (xs ++ ys)).eval scope = glue ((call op xs).eval scope) ((call op ys).eval scope)
  single : ∀ {ys : List Expr}, ys ≠ [] →
    (call op [call op ys]).eval scope = (call op ys).eval scope

/-- A group of operands may stand for one operand. -/
theorem Gathers.flatten (gathers : Gathers op scope glue) (nonempty : ys ≠ []) (xs zs : List Expr) :
    (call op (xs ++ call op ys :: zs)).eval scope = (call op (xs ++ ys ++ zs)).eval scope := by
  have behind : (call op (call op ys :: zs)).eval scope = (call op (ys ++ zs)).eval scope := by
    cases zs with
    | nil => rw [gathers.single nonempty, List.append_nil]
    | cons z zs =>
        rw [← List.singleton_append, gathers.append (List.cons_ne_nil _ _) (List.cons_ne_nil z zs),
          gathers.single nonempty, ← gathers.append nonempty (List.cons_ne_nil z zs)]
  cases xs with
  | nil => exact behind
  | cons x xs =>
      have more : ys ++ zs ≠ [] := List.append_ne_nil_of_left_ne_nil nonempty zs
      rw [gathers.append (List.cons_ne_nil x xs) (List.cons_ne_nil _ zs), behind,
        ← gathers.append (List.cons_ne_nil x xs) more, List.append_assoc]

/-! ## Junctions -/

/-- Goes on with the second run if the result of the first one leaves a junction open. -/
def goOn (kind : Junction) (first second : Run Value) : Run Value := do
  let value ← first
  if value.truth? = some (Meaning.decisive kind) then return value else second

/-- Going on behind a junction is going on behind the last of its operands. -/
theorem goOn_junction (kind : Junction) (e : Expr) (rest : List Expr) (second : Run Value) :
    goOn kind ((call (.junction kind) (e :: rest)).eval scope) second = (do
      let value ← e.eval scope
      let truth ← Coercion.toTruth (.junction kind) value
      if truth = Meaning.decisive kind then return value
      else if rest = [] then second
      else goOn kind ((call (.junction kind) rest).eval scope) second) := by
  rw [goOn, eval_junction_cons, bind_assoc]
  refine bind_congr fun value => ?_
  rw [bind_assoc]
  refine Run.bind_congr_ok fun truth ended => ?_
  have spelled : value.truth? = some truth := Coercion.toTruth_eq_ok_iff.mp ended
  by_cases decided : truth = Meaning.decisive kind
  · simp [decided, spelled]
  · by_cases last : rest = []
    · simp [decided, last, spelled]
    · simp [decided, last, goOn]

theorem eval_junction_append (kind : Junction) (e : Expr) (xs : List Expr) (more : ys ≠ []) :
    (call (.junction kind) (e :: xs ++ ys)).eval scope
      = goOn kind ((call (.junction kind) (e :: xs)).eval scope)
          ((call (.junction kind) ys).eval scope) := by
  induction xs generalizing e with
  | nil =>
      rw [goOn_junction, List.singleton_append, eval_junction_cons]
      simp [more]
  | cons next xs ih =>
      rw [goOn_junction, List.cons_append, eval_junction_cons]
      simp [← ih]

/-- What a junction ends with has been tested for its truth. -/
theorem exists_truth_of_junction {value : Value}
    (ended : ((call (.junction kind) xs).eval scope).outcome = .ok value) :
    ∃ truth, value.truth? = some truth := by
  induction xs with
  | nil => cases ended
  | cons e rest ih =>
      rw [eval_junction_cons] at ended
      obtain ⟨value', -, ended⟩ := Run.exists_of_bind_ok ended
      obtain ⟨truth, spelled, ended⟩ := Run.exists_of_bind_ok ended
      split at ended
      · cases ended
        exact ⟨truth, Coercion.toTruth_eq_ok_iff.mp spelled⟩
      · exact ih ended

theorem gathers_junction (kind : Junction) (scope : Scope) :
    Gathers (.junction kind) scope (goOn kind) where
  append {xs ys} nonempty more := by
    obtain ⟨e, xs, rfl⟩ := List.exists_cons_of_ne_nil nonempty
    exact eval_junction_append kind e xs more
  single _ := eval_junction_single kind fun _ => exists_truth_of_junction

end Expr

/-! ## Folds of texts and of arrays -/

/-- The fold puts texts or arrays one behind the other. -/
def Fold.Collects : Fold → Prop
  | concat | merge => True
  | sum | product | least | greatest => False

namespace Meaning

variable {step : Fold} {a b c value : Value}

theorem form_of_convert (collects : step.Collects) (ended : convert step a = .ok value) :
    step.Form value := by
  cases step with
  | concat | merge => exact joins_of_convert ended
  | sum | product | least | greatest => cases collects

theorem exists_join (collects : step.Collects) (left : step.Form a) (right : step.Form b) :
    ∃ joined, join step a b = .ok joined := by
  cases step with
  | concat | merge =>
      obtain ⟨x, rfl⟩ := left
      obtain ⟨y, rfl⟩ := right
      exact ⟨_, rfl⟩
  | sum | product | least | greatest => cases collects

theorem join_assoc (collects : step.Collects) (first : step.Form a) (second : step.Form b)
    (third : step.Form c) :
    (join step a b >>= fun joined => join step joined c) = join step b c >>= join step a := by
  cases step with
  | concat =>
      obtain ⟨x, rfl⟩ := first
      obtain ⟨y, rfl⟩ := second
      obtain ⟨z, rfl⟩ := third
      show Except.ok (Value.string (x ++ y ++ z)) = .ok (.string (x ++ (y ++ z)))
      rw [String.append_assoc]
  | merge =>
      obtain ⟨x, rfl⟩ := first
      obtain ⟨y, rfl⟩ := second
      obtain ⟨z, rfl⟩ := third
      show Except.ok (Doc.array (x ++ y ++ z)) = .ok (.array (x ++ (y ++ z)))
      rw [List.append_assoc]
  | sum | product | least | greatest => cases collects

end Meaning

variable [PatternEngine]

namespace Expr

variable {step : Fold} {scope : Scope} {xs ys : List Expr} {acc value : Value}

/-- Joins the next operand of a fold. -/
def foldNext (step : Fold) (scope : Scope) (acc : Value) (e : Expr) : Run Value := do
  Meaning.join step acc (← Meaning.folded step e.eval scope)

theorem eval_fold_cons (step : Fold) (e : Expr) (rest : List Expr) (scope : Scope) :
    (call (.fold step) (e :: rest)).eval scope
      = Meaning.folded step e.eval scope >>= fun start =>
          rest.foldlM (foldNext step scope) start := by
  rw [eval, evalEach_eq, List.map_cons, Meaning.ofOperator, Meaning.fold]
  simp only [List.foldlM_map]
  rfl

theorem form_of_folded (collects : step.Collects) {e : Expr}
    (ended : (Meaning.folded step e.eval scope).outcome = .ok value) : step.Form value := by
  obtain ⟨before, -, converted⟩ := Run.exists_of_bind_ok ended
  exact Meaning.form_of_convert collects converted

theorem form_of_foldNext {e : Expr} (ended : (foldNext step scope acc e).outcome = .ok value) :
    step.Form value := by
  obtain ⟨next, -, joined⟩ := Run.exists_of_bind_ok ended
  exact Meaning.form_of_join joined

theorem form_of_foldlM (formed : step.Form acc)
    (ended : (xs.foldlM (foldNext step scope) acc).outcome = .ok value) : step.Form value := by
  induction xs generalizing acc with
  | nil =>
      cases ended
      exact formed
  | cons e rest ih =>
      rw [List.foldlM_cons] at ended
      obtain ⟨joined, here, later⟩ := Run.exists_of_bind_ok ended
      exact ih (form_of_foldNext here) later

theorem form_of_fold (collects : step.Collects)
    (ended : ((call (.fold step) xs).eval scope).outcome = .ok value) : step.Form value := by
  cases xs with
  | nil => cases ended
  | cons e rest =>
      rw [eval_fold_cons] at ended
      obtain ⟨start, here, later⟩ := Run.exists_of_bind_ok ended
      exact form_of_foldlM (form_of_folded collects here) later

/-- What is joined in front of a fold may as well be joined with its result. -/
theorem foldlM_of_join (collects : step.Collects) {start joined : Value} (left : step.Form acc)
    (right : step.Form start) (together : Meaning.join step acc start = .ok joined)
    (rest : List Expr) :
    rest.foldlM (foldNext step scope) joined
      = rest.foldlM (foldNext step scope) start >>= fun total => Meaning.join step acc total := by
  induction rest generalizing start joined with
  | nil =>
      show pure joined = Run.ofExcept (Meaning.join step acc start)
      rw [together]
      rfl
  | cons e rest ih =>
      rw [List.foldlM_cons, List.foldlM_cons, foldNext, foldNext]
      rw [bind_assoc, bind_assoc, bind_assoc]
      refine Run.bind_congr_ok fun next ended => ?_
      have third : step.Form next := form_of_folded collects ended
      obtain ⟨later, behind⟩ := Meaning.exists_join collects right third
      have assoc := Meaning.join_assoc collects left right third
      obtain ⟨whole, ahead⟩ := Meaning.exists_join collects left (Meaning.form_of_join behind)
      have same : Meaning.join step joined next = .ok whole := by
        rw [together, behind] at assoc
        exact assoc.trans ahead
      rw [same, behind]
      exact ih (Meaning.form_of_join behind) ahead

theorem eval_fold_append (collects : step.Collects) (e next : Expr) (xs ys : List Expr) :
    (call (.fold step) (e :: xs ++ next :: ys)).eval scope = (do
      let first ← (call (.fold step) (e :: xs)).eval scope
      let second ← (call (.fold step) (next :: ys)).eval scope
      Meaning.join step first second) := by
  rw [List.cons_append, eval_fold_cons]
  simp only [List.foldlM_append]
  rw [← bind_assoc, ← eval_fold_cons]
  refine Run.bind_congr_ok fun first ended => ?_
  have left : step.Form first := form_of_fold collects ended
  rw [List.foldlM_cons, foldNext, eval_fold_cons, bind_assoc, bind_assoc]
  refine Run.bind_congr_ok fun start ended => ?_
  have right : step.Form start := form_of_folded collects ended
  obtain ⟨joined, together⟩ := Meaning.exists_join collects left right
  rw [together]
  exact foldlM_of_join collects left right together ys

theorem eval_fold_single (collects : step.Collects) (ys : List Expr) :
    (call (.fold step) [call (.fold step) ys]).eval scope = (call (.fold step) ys).eval scope := by
  rw [eval_fold_cons]
  refine (bind_pure _).trans ?_
  rw [Meaning.folded]
  refine (Run.bind_congr_ok fun value ended => ?_).trans (bind_pure _)
  rw [Meaning.convert_of_form (form_of_fold collects ended)]
  rfl

theorem gathers_fold (collects : step.Collects) (scope : Scope) :
    Gathers (.fold step) scope fun first second => do
      Meaning.join step (← first) (← second) where
  append {xs ys} nonempty more := by
    obtain ⟨e, xs, rfl⟩ := List.exists_cons_of_ne_nil nonempty
    obtain ⟨next, ys, rfl⟩ := List.exists_cons_of_ne_nil more
    exact eval_fold_append collects e next xs ys
  single {ys} _ := eval_fold_single collects ys

/-! ## Operators among their own operands -/

/-- **Nested operators flatten.**  With `and`, `or`, `cat` and `merge` it makes no difference
whether some operands, one at least, stand by themselves or in an operand of the same operator.  And
a choice may leave what stands behind its first branch to a choice of its own.  The runs are the
same in every respect: what they look up, what they log, and how they end. -/
theorem nested_operators_flatten (scope : Scope) :
    (∀ op ∈ [Operator.junction .conj, .junction .disj, .fold .concat, .fold .merge],
      ∀ xs ys zs : List Expr, ys ≠ [] →
        (call op (xs ++ call op ys :: zs)).eval scope = (call op (xs ++ ys ++ zs)).eval scope) ∧
    ∀ (condition branch : Expr) (rest : List Expr),
      (call .cond [condition, branch, call .cond rest]).eval scope
        = (call .cond (condition :: branch :: rest)).eval scope := by
  refine ⟨fun op listed xs ys zs nonempty => ?_, fun condition branch rest => rfl⟩
  simp only [List.mem_cons, List.not_mem_nil, or_false] at listed
  rcases listed with rfl | rfl | rfl | rfl
  · exact (gathers_junction .conj scope).flatten nonempty xs zs
  · exact (gathers_junction .disj scope).flatten nonempty xs zs
  · have collects : Fold.Collects .concat := trivial
    exact (gathers_fold collects scope).flatten nonempty xs zs
  · have collects : Fold.Collects .merge := trivial
    exact (gathers_fold collects scope).flatten nonempty xs zs

end Expr

end

namespace Expr

/-- An operand that decides inside decides outside, too; and `merge` takes an object as it
takes any other value. -/
theorem nested_operators_flatten_decided :
    let scope := Scope.element .null
    let some (es : List Expr) : Expr := call (.junction .disj) es
    let merge (es : List Expr) : Expr := call (.fold .merge) es
    let zero := notesInt 0
    let one := notesInt 1
    [zero, one] ≠ [] ∧
      (some [zero, some [zero, one], zero]).eval scope = (some [zero, zero, one, zero]).eval scope ∧
      ((some [zero, zero, one, zero]).eval scope).logged = [Value.int 0, .int 0, .int 1] ∧
      (merge [zero, merge [one, literal (.object [])]]).eval scope
        = (merge [zero, one, literal (.object [])]).eval scope ∧
      ((merge [zero, one, literal (.object [])]).eval scope).outcome
        = .ok (.array [Value.int 0, Value.int 1, .object []]) := by
  intro scope some merge zero one
  have flattens := (nested_operators_flatten scope).1
  exact ⟨nofun, flattens (.junction .disj) (by decide) [zero] [zero, one] [zero] nofun, by decide,
    flattens (.fold .merge) (by decide) [zero] [one, literal (.object [])] [] nofun, by decide⟩

end Expr

end JsonRules
