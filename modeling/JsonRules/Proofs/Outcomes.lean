/-
# JsonRules.Proofs.Outcomes -- how a run ends

Runs put in sequence end as their outcomes do (`Run.outcome_bind`), so a result of the whole comes
from a result of each part.  What the folds of texts and of arrays work on is never anything but
texts and arrays (`Fold.Joins`).
-/
import JsonRules.Proofs.Canonical

namespace JsonRules

set_option autoImplicit false

namespace Run

variable {α β : Type}

theorem outcome_bind (run : Run α) (next : α → Run β) :
    (run >>= next).outcome = run.outcome >>= fun result => (next result).outcome := by
  obtain ⟨events, outcome⟩ := run
  cases outcome <;> rfl

theorem outcome_bind_ok {run : Run α} {result : α} (next : α → Run β)
    (ended : run.outcome = .ok result) : (run >>= next).outcome = (next result).outcome := by
  rw [outcome_bind, ended]
  rfl

/-- What comes after a run matters only for its result. -/
theorem bind_congr_ok {run : Run α} {f g : α → Run β}
    (same : ∀ a, run.outcome = .ok a → f a = g a) : run >>= f = run >>= g := by
  obtain ⟨events, outcome⟩ := run
  cases outcome with
  | error fault => rfl
  | ok a => simp only [bind, Run.bind, same a rfl]

/-- What comes after a run with a result matters only for this result. -/
theorem bind_congr_result {run : Run α} {result : α} {f g : α → Run β}
    (ended : run.outcome = .ok result) (same : f result = g result) : run >>= f = run >>= g := by
  refine bind_congr_ok fun a here => ?_
  obtain rfl : result = a := Except.ok.inj (ended.symm.trans here)
  exact same

/-- The second of two runs has a result only if the first has one. -/
theorem exists_of_bind_ok {run : Run α} {next : α → Run β} {b : β}
    (ended : (run >>= next).outcome = .ok b) :
    ∃ a, run.outcome = .ok a ∧ (next a).outcome = .ok b := by
  rw [outcome_bind] at ended
  exact exists_of_bind_eq_ok ended

theorem outcome_foldlM (f : β → α → Run β) (items : List α) (start : β) :
    (items.foldlM f start).outcome
      = items.foldlM (fun acc item => (f acc item).outcome) start := by
  induction items generalizing start with
  | nil => rfl
  | cons item rest ih =>
      rw [List.foldlM_cons, List.foldlM_cons, outcome_bind]
      exact bind_congr fun acc => ih acc

end Run

/-! ## Folds of texts and of arrays -/

/-- What a fold joins: texts or arrays, if it is one of these. -/
def Fold.Joins : Fold → Value → Prop
  | concat, value => ∃ text, value = .string text
  | merge, value => ∃ items, value = .array items
  | _, _ => True

namespace Meaning

variable {step : Fold} {a b value : Value}

theorem joins_of_convert (ended : convert step a = .ok value) : step.Joins value := by
  cases step with
  | sum | product | least | greatest => trivial
  | concat =>
      obtain ⟨text, -, same⟩ := exists_of_map_eq_ok ended
      exact ⟨text, same.symm⟩
  | merge =>
      unfold convert at ended
      split at ended
      case h_2 | h_3 =>
        cases ended
        exact ⟨_, rfl⟩
      all_goals contradiction

theorem joins_of_join (ended : join step a b = .ok value) : step.Joins value := by
  cases step with
  | sum | product | least | greatest => trivial
  | concat =>
      unfold join at ended
      split at ended
      case h_5 =>
        cases ended
        exact ⟨_, rfl⟩
      all_goals contradiction
  | merge =>
      unfold join at ended
      split at ended
      case h_6 =>
        cases ended
        exact ⟨_, rfl⟩
      all_goals contradiction

end Meaning

end JsonRules
