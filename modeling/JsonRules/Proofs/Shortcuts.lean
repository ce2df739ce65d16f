/-
# JsonRules.Proofs.Shortcuts -- operands that are not reached

`and` and `or` stop behind the operand that decides them, and `if` takes the branch of the first
condition that is true.  Where that is, is said by the truths that operands have in a scope
(`Expr.HasTruth`): a junction stops within a list of operands (`Expr.Stops`), and a choice has no
true condition among its first ones.

A step of a junction is its first operand, and then either nothing or the junction of the others
(`eval_junction_of_decided`, `eval_junction_of_passed`); so what stands behind an operand that
decides has no part in the run.  In a choice a branch has a part in the run only if its condition
is true, so all the others can be exchanged at once (`eval_choice_congr`).
-/
import JsonRules.Libraries
import JsonRules.Proofs.Quantifiers

namespace JsonRules

set_option autoImplicit false

section

variable [PatternEngine]

namespace Expr

variable {e : Expr} {rest : List Expr} {scope : Scope} {truth : Bool} {kind : Junction}

/-- In the scope the expression has a value of the given truth. -/
def HasTruth (e : Expr) (scope : Scope) (truth : Bool) : Prop :=
  ∃ value, (e.eval scope).outcome = .ok value ∧ value.truth? = some truth

theorem outcome_truth_eq_ok_iff {op : Operator} :
    (Meaning.truth op e.eval scope).outcome = .ok truth ↔ e.HasTruth scope truth := by
  constructor
  · intro ended
    obtain ⟨value, gives, spelled⟩ := Run.exists_of_bind_ok ended
    exact ⟨value, gives, Coercion.toTruth_eq_ok_iff.mp spelled⟩
  · rintro ⟨value, gives, spelled⟩
    exact (Run.outcome_bind_ok _ gives).trans (Coercion.toTruth_eq_ok_iff.mpr spelled)

/-! ## Junctions -/

theorem eval_junction_cons (kind : Junction) (e : Expr) (rest : List Expr) (scope : Scope) :
    (call (.junction kind) (e :: rest)).eval scope = (do
      let value ← e.eval scope
      let truth ← Coercion.toTruth (.junction kind) value
      if truth == Meaning.decisive kind || rest.isEmpty then return value
      else (call (.junction kind) rest).eval scope) := by
  cases rest <;> rfl

/-- A junction that is decided by its first operand is this operand. -/
theorem eval_junction_of_decided (decided : e.HasTruth scope (Meaning.decisive kind))
    (rest : List Expr) : (call (.junction kind) (e :: rest)).eval scope = e.eval scope := by
  obtain ⟨value, gives, spelled⟩ := decided
  rw [eval_junction_cons]
  refine (Run.bind_congr_result gives ?_).trans (bind_pure (e.eval scope))
  rw [Coercion.toTruth_eq_ok_iff.mpr spelled]
  refine (pure_bind _ _).trans ?_
  rw [beq_self_eq_true, Bool.true_or, if_pos rfl]

/-- A fault of its first operand ends a junction. -/
theorem eval_junction_of_error {fault : Fault} (ended : (e.eval scope).outcome = .error fault)
    (rest : List Expr) : (call (.junction kind) (e :: rest)).eval scope = e.eval scope := by
  rw [eval_junction_cons, Run.bind_of_error ended, ← ended]

/-- A junction that is not decided by its first operand is the junction of the others after it. -/
theorem eval_junction_of_passed (passed : e.HasTruth scope (!Meaning.decisive kind))
    (more : rest ≠ []) :
    (call (.junction kind) (e :: rest)).eval scope
      = e.eval scope >>= fun _ => (call (.junction kind) rest).eval scope := by
  obtain ⟨value, gives, spelled⟩ := passed
  rw [eval_junction_cons]
  refine Run.bind_congr_result gives ?_
  rw [Coercion.toTruth_eq_ok_iff.mpr spelled]
  refine (pure_bind _ _).trans ?_
  rw [Bool.not_beq_self, Bool.false_or, if_neg (by simpa using more)]

/-- A junction of one operand is the operand, if that has no values but such with a truth. -/
theorem eval_junction_single (kind : Junction)
    (truths : ∀ value, (e.eval scope).outcome = .ok value → ∃ truth, value.truth? = some truth) :
    (call (.junction kind) [e]).eval scope = e.eval scope := by
  rw [eval_junction_cons]
  refine (Run.bind_congr_ok fun value gives => ?_).trans (bind_pure _)
  obtain ⟨truth, spelled⟩ := truths value gives
  rw [Coercion.toTruth_eq_ok_iff.mpr spelled]
  refine (pure_bind truth _).trans ?_
  simp

/-- A junction stops within the operands: behind some that do not decide it stands one that does. -/
inductive Stops (kind : Junction) (scope : Scope) : List Expr → Prop where
  | here {e : Expr} {rest : List Expr} (decided : e.HasTruth scope (Meaning.decisive kind)) :
      Stops kind scope (e :: rest)
  | later {e : Expr} {rest : List Expr} (passed : e.HasTruth scope (!Meaning.decisive kind))
      (stops : Stops kind scope rest) : Stops kind scope (e :: rest)

theorem Stops.append_ne_nil {xs : List Expr} (stops : Stops kind scope xs) (ys : List Expr) :
    xs ++ ys ≠ [] := by
  cases stops with
  | here _ | later _ _ => exact List.cons_ne_nil _ _

/-- Whatever stands behind operands within which a junction stops, the run is the same. -/
theorem eval_junction_of_stops {xs : List Expr} (stops : Stops kind scope xs) (ys zs : List Expr) :
    (call (.junction kind) (xs ++ ys)).eval scope
      = (call (.junction kind) (xs ++ zs)).eval scope := by
  induction stops with
  | here decided =>
      rw [List.cons_append, List.cons_append, eval_junction_of_decided decided,
        eval_junction_of_decided decided]
  | later passed stops ih =>
      rw [List.cons_append, List.cons_append,
        eval_junction_of_passed passed (stops.append_ne_nil ys),
        eval_junction_of_passed passed (stops.append_ne_nil zs), ih]

/-! ## Choices -/

/-- A choice: conditions, each with its branch, and what stands behind them. -/
def choice (arms : List (Expr × Expr)) (rest : List Expr) : Expr :=
  call .cond (arms.flatMap (fun arm => [arm.1, arm.2]) ++ rest)

theorem eval_choice_cons (arm : Expr × Expr) (arms : List (Expr × Expr)) (rest : List Expr)
    (scope : Scope) :
    (choice (arm :: arms) rest).eval scope = (do
      if ← Meaning.truth .cond arm.1.eval scope then arm.2.eval scope
      else (choice arms rest).eval scope) := rfl

/-- A choice whose first condition is true depends on nothing but this condition and its branch. -/
theorem eval_choice_of_true {condition : Expr} (holds : condition.HasTruth scope true)
    (branch : Expr) (after after' : List Expr) :
    (choice [] (condition :: branch :: after)).eval scope
      = (choice [] (condition :: branch :: after')).eval scope := by
  show (choice [(condition, branch)] after).eval scope
    = (choice [(condition, branch)] after').eval scope
  rw [eval_choice_cons, eval_choice_cons]
  exact Run.bind_congr_result (outcome_truth_eq_ok_iff.mpr holds) rfl

/-- Branches of conditions that are not true can be exchanged; if one of the conditions ends with a
fault, then so can everything behind it. -/
theorem eval_choice_congr {arms others : List (Expr × Expr)}
    (same : arms.map Prod.fst = others.map Prod.fst)
    (untrue : ∀ arm ∈ arms, ¬ arm.1.HasTruth scope true) {rest rest' : List Expr}
    (behind : (choice [] rest).eval scope = (choice [] rest').eval scope) :
    (choice arms rest).eval scope = (choice others rest').eval scope := by
  induction arms generalizing others with
  | nil =>
      obtain rfl : others = [] := List.map_eq_nil_iff.mp same.symm
      exact behind
  | cons arm arms ih =>
      obtain ⟨other, others, rfl, sameFirst, sameLater⟩ := List.map_eq_cons_iff.mp same.symm
      obtain ⟨here, later⟩ := List.forall_mem_cons.mp untrue
      rw [eval_choice_cons, eval_choice_cons, sameFirst]
      refine Run.bind_congr_ok fun truth ended => ?_
      cases truth with
      | true => exact absurd (outcome_truth_eq_ok_iff.mp ended) here
      | false => exact ih sameLater.symm later

/-! ## What is not reached -/

/-- **Operands that are not reached do not matter.**  Where a junction stops within some operands,
the run is the same whatever stands behind them.  In a choice let no condition of the first arms be
true.  Then these arms may have any other branches; and if a true condition follows, its branch may
be followed by anything, too.  The runs are the same in every respect: what they look up, what they
log, and how they end. -/
theorem unreached_operands_do_not_matter (scope : Scope) :
    (∀ (kind : Junction) (xs : List Expr), Stops kind scope xs → ∀ ys zs : List Expr,
      (call (.junction kind) (xs ++ ys)).eval scope
        = (call (.junction kind) (xs ++ zs)).eval scope) ∧
    ∀ arms others : List (Expr × Expr), arms.map Prod.fst = others.map Prod.fst →
      (∀ arm ∈ arms, ¬ arm.1.HasTruth scope true) →
      (∀ condition branch : Expr, condition.HasTruth scope true → ∀ after after' : List Expr,
        (choice arms (condition :: branch :: after)).eval scope
          = (choice others (condition :: branch :: after')).eval scope) ∧
      ∀ otherwise : List Expr,
        (choice arms otherwise).eval scope = (choice others otherwise).eval scope := by
  refine ⟨fun kind xs stops => eval_junction_of_stops stops, fun arms others same untrue => ?_⟩
  constructor
  · intro condition branch holds after after'
    exact eval_choice_congr same untrue (eval_choice_of_true holds branch after after')
  · intro otherwise
    exact eval_choice_congr same untrue rfl

/-- Logs an integer, and gives it. -/
def notesInt (n : Int64) : Expr := .call .log [.literal (.int n)]

end Expr

end

namespace Expr

/-- An operator without operands would be a fault, but `or` is decided before it, and the choices do
not take it. -/
theorem unreached_operands_do_not_matter_broken :
    let scope := Scope.host fun _ _ => none
    let broken : Expr := .call .member []
    let some (es : List Expr) := (call (.junction .disj) es).eval scope
    let arms := [(notesInt 0, broken)]
    let others := [(notesInt 0, notesInt 5)]
    Stops .disj scope [notesInt 0, notesInt 1] ∧
      some [notesInt 0, notesInt 1, broken] = some [notesInt 0, notesInt 1, notesInt 2] ∧
      (some [notesInt 0, notesInt 1, broken]).logged = [Value.int 0, .int 1] ∧
      arms.map Prod.fst = others.map Prod.fst ∧
      (∀ arm ∈ arms, ¬ arm.1.HasTruth scope true) ∧
      (notesInt 1).HasTruth scope true ∧
      (choice arms [notesInt 1, notesInt 2, broken]).eval scope
        = (choice others [notesInt 1, notesInt 2]).eval scope ∧
      (choice arms [notesInt 4]).eval scope = (choice others [notesInt 4]).eval scope ∧
      ((choice arms [notesInt 4]).eval scope).logged = [Value.int 0, .int 4] := by
  intro scope broken some arms others
  obtain ⟨junctions, choices⟩ := unreached_operands_do_not_matter scope
  have stops : Stops .disj scope [notesInt 0, notesInt 1] :=
    .later ⟨.int 0, rfl, rfl⟩ (.here ⟨.int 1, rfl, rfl⟩)
  have untrue : ∀ arm ∈ arms, ¬ arm.1.HasTruth scope true := by
    rintro arm member ⟨value, gives, spelled⟩
    obtain rfl := List.mem_singleton.mp member
    cases gives
    exact absurd spelled (by decide)
  have holds : (notesInt 1).HasTruth scope true := ⟨.int 1, rfl, rfl⟩
  obtain ⟨taken, untaken⟩ := choices arms others rfl untrue
  exact ⟨stops, junctions .disj _ stops [broken] [notesInt 2], by decide, rfl, untrue, holds,
    taken (notesInt 1) (notesInt 2) holds [broken] [], untaken [notesInt 4], by decide⟩

end Expr

end JsonRules
