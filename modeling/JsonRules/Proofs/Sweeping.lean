/-
# JsonRules.Proofs.Sweeping -- selecting in one sweep over the lines

A selection is the list of all records with their verdicts, and the selected lines, the number of
skipped records, the warnings and the log lines are read off it.  The same comes out of one sweep
over the lines (`Selection.sweep`).  It keeps a tally, passes over blank lines, and is done with a
record at the first thing that is wrong with it.  One sink serves for all records, and log lines are
written to it while the rule is evaluated, as in `JsonRules.Proofs.Writing`.

A visit to a line adds its record to the tally (`Tally.run_visit`).  So the sweep ends with the
tally of the selection, and the sink has been offered what the selection logs
(`Selection.run_sweep`).
-/
import JsonRules.Proofs.Writing
import JsonRules.Selection

namespace JsonRules

set_option autoImplicit false

/-- What has been found on the way through an input. -/
structure Tally where
  selected : List String := []
  skipped : Nat := 0
  warnings : List Warning := []

namespace Tally

/-- One more record is skipped, with what is said about it. -/
def skip (tally : Tally) (warnings : List Warning) : Tally :=
  { tally with skipped := tally.skipped + 1, warnings := tally.warnings ++ warnings }

/-- Evaluation says on its own that a text is no number. -/
def warnNotNumeric (tally : Tally) : Fault → Tally
  | .coercion text target => { tally with warnings := tally.warnings ++ [.notNumeric text target] }
  | _ => tally

/-- The tally with one more record that has been judged. -/
def count (tally : Tally) (judged : Judged) : Tally :=
  match judged.verdict with
  | .selected => { tally with selected := tally.selected ++ [judged.line] }
  | .rejected => tally
  | verdict => tally.skip (verdict.warnings judged.row)

variable {S : Type} [Writable S] [PatternEngine] [Json.Rounding]

/-- Visits the line of a row. -/
def visit (rule : Rule) (row : Nat) (line : String) (tally : Tally) : StateM S Tally := do
  if Text.isBlankText line then
    return tally
  let data ← match Json.read line with
    | .ok data => pure data
    | .error error => return tally.skip [.notJson row error]
  let value ← match ← (rule.root.evalIn (.host (.record (.ofJson data))) : Writing S Value).run with
    | .ok value => pure value
    | .error fault => return (tally.warnNotNumeric fault).skip [.faulted row fault]
  let some keep := value.truth? | return tally.skip [.noTruth row]
  if keep then
    return { tally with selected := tally.selected ++ [line] }
  return tally

/-- A line without a record is passed over. -/
theorem run_visit_blank (tally : Tally) (rule : Rule) (row : Nat) {line : String} (sink : S)
    (blank : Text.isBlankText line = true) :
    (tally.visit rule row line).run sink = (tally, sink) := by
  rw [visit, if_pos blank]
  rfl

/-- A record is counted as it is judged, and what is logged for it goes to the sink. -/
theorem run_visit (tally : Tally) (rule : Rule) (row : Nat) {line : String} (sink : S)
    (record : Text.isBlankText line = false) :
    (tally.visit rule row line).run sink
      = (tally.count (rule.judge row line),
        Writable.logAll (rule.judge row line).logged sink) := by
  rw [visit, if_neg (by simp [record]), Rule.judge]
  cases Json.read line with
  | error error => rfl
  | ok data =>
      have evaluated :
          ((rule.root.evalIn (.host (.record (.ofJson data))) : Writing S Value).run).run sink
            = pure ((rule.runOn data).outcome, Writable.logAll (rule.runOn data).logged sink) :=
        rule.root.evalWriting_eq _ sink
      simp only [pure_bind, StateT.run_bind, evaluated]
      cases (rule.runOn data).outcome with
      | error fault =>
          cases fault with
          | coercion text target =>
              simp only [count, Verdict.ofOutcome, Verdict.warnings, warnNotNumeric, skip,
                List.append_assoc]
              rfl
          | _ => rfl
      | ok value =>
          simp only [Verdict.ofOutcome]
          cases value.truth? with
          | none => rfl
          | some keep => cases keep <;> rfl

end Tally

namespace Selection

/-- The tally of a selection. -/
def tally (selection : Selection) : Tally :=
  ⟨selection.selected, selection.skipped, selection.warnings⟩

theorem tally_concat (seen : Selection) (judged : Judged) :
    tally (seen ++ [judged]) = (tally seen).count judged := by
  obtain ⟨row, line, logged, verdict⟩ := judged
  cases verdict <;>
    simp [tally, selected, skipped, warnings, Tally.count, Tally.skip, Verdict.isSkipped,
      Verdict.warnings]

section Lines

variable [PatternEngine] [Json.Rounding]

/-- The records on some lines with what becomes of them; the rows are counted from a number on. -/
def ofLines (rule : Rule) (first : Nat) (lines : List String) : Selection :=
  (lines.zipIdx first).filterMap fun (line, row) =>
    if Text.isBlankText line then none else some (rule.judge row line)

theorem ofInput_eq_ofLines (rule : Rule) (input : String) :
    ofInput rule input = ofLines rule 1 (Text.lines input) := by
  rw [ofInput, rows, List.map_filterMap, ofLines]
  congr 1
  funext ⟨line, row⟩
  by_cases blank : Text.isBlankText line = true <;> simp [blank]

theorem ofLines_nil (rule : Rule) (first : Nat) : ofLines rule first [] = [] := rfl

theorem ofLines_cons (rule : Rule) (first : Nat) (line : String) (rest : List String) :
    ofLines rule first (line :: rest)
      = if Text.isBlankText line then ofLines rule (first + 1) rest
        else rule.judge first line :: ofLines rule (first + 1) rest := by
  by_cases blank : Text.isBlankText line = true <;> simp [ofLines, blank]

end Lines

variable {S : Type} [Writable S] [PatternEngine] [Json.Rounding]

/-- Visits the lines of an input in order. -/
def sweep (rule : Rule) (input : String) : StateM S Tally := do
  let mut tally : Tally := {}
  for (line, index) in (Text.lines input).zipIdx do
    tally ← tally.visit rule (index + 1) line
  return tally

/-- The tally is at any time that of the records seen so far. -/
theorem run_visits (rule : Rule) (lines : List String) (index : Nat) (seen : Selection)
    (sink : S) :
    ((lines.zipIdx index).foldlM
        (fun tally entry => Tally.visit rule (entry.2 + 1) entry.1 tally) seen.tally).run sink
      = (tally (seen ++ ofLines rule (index + 1) lines),
        Writable.logAll (ofLines rule (index + 1) lines).logged sink) := by
  induction lines generalizing index seen sink with
  | nil =>
      rw [ofLines_nil, List.append_nil]
      rfl
  | cons line rest ih =>
      rw [List.zipIdx_cons, List.foldlM_cons, StateT.run_bind, ofLines_cons]
      cases blank : Text.isBlankText line with
      | true =>
          rw [Tally.run_visit_blank _ _ _ _ blank]
          exact ih ..
      | false =>
          rw [Tally.run_visit _ _ _ _ blank, ← tally_concat]
          refine (ih ..).trans ?_
          simp [logged, Writable.logAll]

/-- The sweep ends with the tally of the selection, and the sink has been offered the values that
the selection logs. -/
theorem run_sweep (rule : Rule) (input : String) (sink : S) :
    (sweep rule input).run sink
      = ((ofInput rule input).tally, Writable.logAll (ofInput rule input).logged sink) := by
  have folded : (sweep rule input : StateM S Tally) = (Text.lines input).zipIdx.foldlM
      (fun tally entry => Tally.visit rule (entry.2 + 1) entry.1 tally) (tally []) := by
    simp only [sweep, bind_pure_comp, List.forIn_yield_eq_foldlM, id_map']
    rfl
  rw [folded, run_visits, ofInput_eq_ofLines]
  rfl

end Selection

end JsonRules
