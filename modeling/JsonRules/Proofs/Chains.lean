/-
# JsonRules.Proofs.Chains -- comparisons of three operands

Two operands are compared first; if they are in relation, the second one is compared with the third
(`Expr.eval_chain`).  A conjunction of the two comparisons does the same, except that it runs the
second operand once more.  That has the same value then, so the two end alike, and what happens in
them differs by what happens in that operand (`Expr.chain_is_conjunction`).
-/
import JsonRules.Libraries
import JsonRules.Proofs.Shortcuts

namespace JsonRules

set_option autoImplicit false

section

variable [PatternEngine]

namespace Expr

variable {kind : Relation} {a b c : Expr} {scope : Scope} {y : Value}

/-! ## Runs of operands in turn -/

/-- What happens in a run is what happens in some first ones of the operands: each of them runs
once, one after the other, and the others do not run. -/
def RunsInTurn {α : Type} (operands : List Expr) (scope : Scope) (run : Run α) : Prop :=
  ∃ reached, reached <+: operands ∧ run.events = reached.flatMap fun e => (e.eval scope).events

namespace RunsInTurn

variable {α β : Type} {operands : List Expr}

theorem of_events_nil {run : Run α} (nothing : run.events = []) :
    RunsInTurn operands scope run := ⟨[], List.nil_prefix, nothing⟩

/-- A step in which nothing happens may come before. -/
theorem step (result : Except Fault α) {next : α → Run β}
    (after : ∀ a, RunsInTurn operands scope (next a)) :
    RunsInTurn operands scope (Run.ofExcept result >>= next) := by
  cases result with
  | error fault => exact of_events_nil rfl
  | ok a => exact after a

/-- An operand runs, and then the others in turn. -/
theorem operand (e : Expr) {next : Value → Run α}
    (after : ∀ value, RunsInTurn operands scope (next value)) :
    RunsInTurn (e :: operands) scope (e.eval scope >>= next) := by
  cases ended : (e.eval scope).outcome with
  | error fault =>
      rw [Run.bind_of_error ended]
      exact ⟨[e], List.cons_prefix_cons.mpr ⟨rfl, List.nil_prefix⟩, by simp⟩
  | ok value =>
      obtain ⟨reached, first, happened⟩ := after value
      rw [Run.bind_of_ok ended]
      exact ⟨e :: reached, List.cons_prefix_cons.mpr ⟨rfl, first⟩, by simp [happened]⟩

end RunsInTurn

/-! ## Comparisons of two and of three operands -/

/-- Runs two operands and compares them; the second one is kept for a further comparison. -/
def compared (kind : Relation) (a b : Expr) (scope : Scope) : Run (Value × Bool) := do
  let x ← a.eval scope
  let y ← b.eval scope
  return (y, ← kind.test x y)

/-- Runs an operand and compares a value with it. -/
def against (kind : Relation) (y : Value) (c : Expr) (scope : Scope) : Run Value := do
  let z ← c.eval scope
  return .bool (← kind.test y z)

/-- A comparison of two operands. -/
def pair (kind : Relation) (a b : Expr) : Expr := call (.relation kind) [a, b]

theorem eval_pair (kind : Relation) (a b : Expr) (scope : Scope) :
    (pair kind a b).eval scope = a.eval scope >>= fun x => against kind x b scope := by
  refine bind_congr fun x => bind_congr fun y => bind_congr fun holds => ?_
  cases holds <;> rfl

theorem eval_pair_compared (kind : Relation) (a b : Expr) (scope : Scope) :
    (pair kind a b).eval scope = (fun found => Value.bool found.2) <$> compared kind a b scope := by
  rw [eval_pair, compared, map_eq_pure_bind]
  simp only [bind_assoc, pure_bind]
  rfl

theorem eval_chain (kind : Relation) (a b c : Expr) (scope : Scope) :
    (call (.relation kind) [a, b, c]).eval scope = (do
      let found ← compared kind a b scope
      if found.2 then against kind found.1 c scope else return .bool false) := by
  rw [compared]
  simp only [bind_assoc, pure_bind]
  rfl

theorem runsInTurn_chain (kind : Relation) (a b c : Expr) (scope : Scope) :
    RunsInTurn [a, b, c] scope ((call (.relation kind) [a, b, c]).eval scope) := by
  refine .operand a fun x => .operand b fun y => .step _ fun holds => ?_
  cases holds with
  | false => exact .of_events_nil rfl
  | true => exact .operand c fun z => .step _ fun _ => .of_events_nil rfl

theorem exists_bool_of_pair {value : Value}
    (ended : ((pair kind a b).eval scope).outcome = .ok value) : ∃ holds, value = .bool holds := by
  rw [eval_pair_compared, Run.outcome_map] at ended
  obtain ⟨found, -, rfl⟩ := exists_of_map_eq_ok ended
  exact ⟨found.2, rfl⟩

/-- A comparison that holds has compared the value of its second operand. -/
theorem exists_of_pair_holds (holds : ((pair kind a b).eval scope).outcome = .ok (.bool true)) :
    ∃ y, (compared kind a b scope).outcome = .ok (y, true) ∧ (b.eval scope).outcome = .ok y := by
  rw [eval_pair_compared, Run.outcome_map] at holds
  obtain ⟨⟨y, truth⟩, found, same⟩ := exists_of_map_eq_ok holds
  cases same
  refine ⟨y, found, ?_⟩
  obtain ⟨x, -, found⟩ := Run.exists_of_bind_ok found
  obtain ⟨y', gives, found⟩ := Run.exists_of_bind_ok found
  obtain ⟨truth, -, same⟩ := Run.exists_of_bind_ok found
  cases same
  exact gives

/-! ## The second comparison does not follow -/

/-- A chain is its first comparison unless that holds. -/
theorem eval_chain_of_not_holds
    (fails : ((pair kind a b).eval scope).outcome ≠ .ok (.bool true)) (c : Expr) :
    (call (.relation kind) [a, b, c]).eval scope = (pair kind a b).eval scope := by
  rw [eval_pair_compared, Run.outcome_map] at fails
  rw [eval_chain, eval_pair_compared, map_eq_pure_bind]
  refine Run.bind_congr_ok fun found ended => ?_
  obtain ⟨y, holds⟩ := found
  cases holds with
  | true =>
      rw [ended] at fails
      exact absurd rfl fails
  | false => rfl

/-- A conjunction is its first comparison unless that holds. -/
theorem eval_conj_of_not_holds
    (fails : ((pair kind a b).eval scope).outcome ≠ .ok (.bool true)) (rest : List Expr) :
    (call (.junction .conj) (pair kind a b :: rest)).eval scope = (pair kind a b).eval scope := by
  cases ended : ((pair kind a b).eval scope).outcome with
  | error fault => exact eval_junction_of_error ended rest
  | ok value =>
      obtain ⟨holds, rfl⟩ := exists_bool_of_pair ended
      cases holds with
      | true => exact absurd ended fails
      | false => exact eval_junction_of_decided ⟨.bool false, ended, rfl⟩ rest

/-! ## The second comparison follows -/

theorem eval_chain_of_holds (found : (compared kind a b scope).outcome = .ok (y, true)) (c : Expr) :
    (call (.relation kind) [a, b, c]).eval scope
      = ⟨((pair kind a b).eval scope).events ++ (against kind y c scope).events,
          (against kind y c scope).outcome⟩ := by
  rw [eval_chain, Run.bind_of_ok found, eval_pair_compared, Run.events_map]
  rfl

/-- In a conjunction the second operand runs again before the second comparison. -/
theorem eval_conj_of_holds (holds : ((pair kind a b).eval scope).outcome = .ok (.bool true))
    (gives : (b.eval scope).outcome = .ok y) (c : Expr) :
    (call (.junction .conj) [pair kind a b, pair kind b c]).eval scope
      = ⟨((pair kind a b).eval scope).events
            ++ ((b.eval scope).events ++ (against kind y c scope).events),
          (against kind y c scope).outcome⟩ := by
  have single : (call (.junction .conj) [pair kind b c]).eval scope
      = b.eval scope >>= fun y => against kind y c scope := by
    rw [← eval_pair]
    refine eval_junction_single .conj fun value ended => ?_
    obtain ⟨truth, rfl⟩ := exists_bool_of_pair ended
    exact ⟨truth, rfl⟩
  rw [eval_junction_of_passed ⟨.bool true, holds, rfl⟩ (List.cons_ne_nil _ _),
    Run.bind_of_ok holds, single, Run.bind_of_ok gives]

/-! ## Chains -/

/-- **A chain of comparisons is a conjunction.**  `a < b < c` ends as the conjunction of `a < b` and
`b < c` ends, whichever relation stands for `<`, with a value or with a fault.  In the chain the
operands run in turn, none of them twice; so the two logs can differ only by what `b` logs, and they
are equal if that is nothing.  Where the first comparison does not hold or ends with a fault, the
chain is just this comparison, and `c` has no part in it. -/
theorem chain_is_conjunction (kind : Relation) (a b c : Expr) (scope : Scope) :
    let chain := (call (.relation kind) [a, b, c]).eval scope
    let conjunction := (call (.junction .conj) [pair kind a b, pair kind b c]).eval scope
    chain.outcome = conjunction.outcome ∧
      RunsInTurn [a, b, c] scope chain ∧
      ((b.eval scope).logged = [] → chain.logged = conjunction.logged) ∧
      (((pair kind a b).eval scope).outcome ≠ .ok (.bool true) →
        chain = (pair kind a b).eval scope) := by
  intro chain conjunction
  have alike : chain.outcome = conjunction.outcome ∧
      ((b.eval scope).logged = [] → chain.logged = conjunction.logged) := by
    by_cases holds : ((pair kind a b).eval scope).outcome = .ok (.bool true)
    · obtain ⟨y, found, gives⟩ := exists_of_pair_holds holds
      rw [show chain = _ from eval_chain_of_holds found c,
        show conjunction = _ from eval_conj_of_holds holds gives c]
      refine ⟨rfl, fun silent => ?_⟩
      rw [Run.logged] at silent
      rw [Run.logged, Run.logged, List.filterMap_append, List.filterMap_append,
        List.filterMap_append, silent, List.nil_append]
    · have same : chain = conjunction :=
        (eval_chain_of_not_holds holds c).trans (eval_conj_of_not_holds holds _).symm
      exact ⟨congrArg Run.outcome same, fun _ => congrArg Run.logged same⟩
  exact ⟨alike.1, runsInTurn_chain kind a b c scope, alike.2,
    fun fails => eval_chain_of_not_holds fails c⟩

end Expr

end

namespace Expr

/-- `1 < 2 < 3` with a second operand that logs nothing, and `3 < 2 < 1`, which does not get to its
third one. -/
theorem chain_is_conjunction_logged :
    let scope := Scope.host fun _ _ => none
    let rising : Expr := call (.relation .less) [notesInt 1, .literal (.int 2), notesInt 3]
    let falling : Expr := call (.relation .less) [notesInt 3, notesInt 2, notesInt 1]
    ((literal (.int 2)).eval scope).logged = [] ∧
      (rising.eval scope).outcome = .ok (.bool true) ∧
      (rising.eval scope).logged = [Value.int 1, .int 3] ∧
      (rising.eval scope).logged
        = ((call (.junction .conj) [pair .less (notesInt 1) (.literal (.int 2)),
            pair .less (.literal (.int 2)) (notesInt 3)]).eval scope).logged ∧
      ((pair .less (notesInt 3) (notesInt 2)).eval scope).outcome ≠ .ok (.bool true) ∧
      falling.eval scope = (pair .less (notesInt 3) (notesInt 2)).eval scope ∧
      (falling.eval scope).logged = [Value.int 3, .int 2] := by
  intro scope rising falling
  have silent : ((literal (.int 2)).eval scope).logged = [] := by decide
  have fails : ((pair .less (notesInt 3) (notesInt 2)).eval scope).outcome ≠ .ok (.bool true) := by
    decide
  obtain ⟨-, -, logs, -⟩ :=
    chain_is_conjunction .less (notesInt 1) (.literal (.int 2)) (notesInt 3) scope
  obtain ⟨-, -, -, first⟩ :=
    chain_is_conjunction .less (notesInt 3) (notesInt 2) (notesInt 1) scope
  exact ⟨silent, by decide, by decide, logs silent, fails, first fails, by decide⟩

end Expr

end JsonRules
