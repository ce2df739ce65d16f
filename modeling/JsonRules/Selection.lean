/-
# JsonRules.Selection -- the records that a rule selects

The input has a record on each of its lines, except for blank ones.  A record is judged on
its own: it is selected if the rule gives something true for it, and it is skipped, with a
warning, if there is no answer.  Rows are numbered by their lines, blank lines included.
-/
import JsonRules.Rule
import JsonRules.Text.Lines

namespace JsonRules

set_option autoImplicit false

/-- What becomes of a record. -/
inductive Verdict where
  | selected
  | rejected
  | notJson (error : Json.ReadError)
  | faulted (fault : Fault)
  | noTruth
  deriving DecidableEq

/-- What is said about a record that is skipped. -/
inductive Warning where
  /-- A text stands where a number is needed. -/
  | notNumeric (text : String) (target : Kind)
  | notJson (row : Nat) (error : Json.ReadError)
  | faulted (row : Nat) (fault : Fault)
  | noTruth (row : Nat)
  deriving DecidableEq

/-- The words for a warning. -/
def Warning.message : Warning → String
  | notNumeric _ _ => "string operand is not numeric"
  | notJson _ _ => "skipping row that is not valid JSON"
  | faulted _ _ => "skipping row that faulted"
  | noTruth _ => "rule result has no truth value"

namespace Verdict

/-- The verdict that a run of the rule leads to. -/
def ofOutcome : Except Fault Value → Verdict
  | .error fault => .faulted fault
  | .ok value =>
      match value.truth? with
      | some true => .selected
      | some false => .rejected
      | none => .noTruth

/-- There is no answer for the record. -/
def isSkipped : Verdict → Bool
  | .selected | .rejected => false
  | .notJson _ | .faulted _ | .noTruth => true

/-- What is said about the record of a row. -/
def warnings (row : Nat) : Verdict → List Warning
  | .selected | .rejected => []
  | .notJson error => [.notJson row error]
  | .faulted (.coercion text target) =>
      [.notNumeric text target, .faulted row (.coercion text target)]
  | .faulted fault => [.faulted row fault]
  | .noTruth => [.noTruth row]

end Verdict

/-- A record with what became of it. -/
structure Judged where
  row : Nat
  line : String
  logged : List Value
  verdict : Verdict
  deriving DecidableEq

/-- The records of an input with what became of them. -/
abbrev Selection := List Judged

variable [PatternEngine] [Json.Rounding]

/-- Judges the record on a line. -/
def Rule.judge (rule : Rule) (row : Nat) (line : String) : Judged :=
  match Json.read line with
  | .error error => ⟨row, line, [], .notJson error⟩
  | .ok data =>
      let run := rule.runOn data
      ⟨row, line, run.logged, .ofOutcome run.outcome⟩

namespace Selection

/-- The lines of an input that hold a record, each with its number. -/
def rows (input : String) : List (Nat × String) :=
  ((Text.lines input).zipIdx 1).filterMap fun (line, row) =>
    if Text.isBlankText line then none else some (row, line)

/-- Judges every record of an input. -/
def ofInput (rule : Rule) (input : String) : Selection :=
  (rows input).map fun (row, line) => rule.judge row line

/-- The lines that are selected, in order. -/
def selected (selection : Selection) : List String :=
  (selection.filter fun judged => judged.verdict == .selected).map Judged.line

/-- How many records are skipped. -/
def skipped (selection : Selection) : Nat :=
  selection.countP fun judged => judged.verdict.isSkipped

/-- What is said about the records that are skipped, in order. -/
def warnings (selection : Selection) : List Warning :=
  selection.flatMap fun judged => judged.verdict.warnings judged.row

/-- The values that are logged for the records, in order. -/
def logged (selection : Selection) : List Value := selection.flatMap Judged.logged

end Selection

end JsonRules
