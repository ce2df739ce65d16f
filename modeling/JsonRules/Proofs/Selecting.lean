/-
# JsonRules.Proofs.Selecting -- selecting records is applying the rule to each

A selection judges the records of an input one after the other, and what it counts and says
comes from the verdicts.  This module ties it to the command that applies a rule to one text of
data: a line is selected exactly if applying the rule to it gives something true, and it is
skipped, with one warning about its row, exactly if that gives an error or an object
(`Command.select_is_rowwise_apply`).

What the lines of an input are is said here a second time, without a pass over its characters:
they are what stands between line feeds (`Text.lines_eq_cut`).  So an input can be selected from
in pieces, as long as no line is torn (`Text.lines_append`).
-/
import JsonRules.Command
import JsonRules.Libraries
import Mathlib.Data.List.Basic

namespace JsonRules

set_option autoImplicit false

/-! ## Lines -/

namespace Text

/-- A line without the carriage return that belongs to its line break. -/
def dropReturn (line : List Char) : List Char :=
  if line.getLast? = some '\r' then line.dropLast else line

/-- The lines among the parts of a text between its line feeds.  Behind the last line feed there is
no line break, and if nothing stands there it is no line. -/
def linesOfParts : List (List Char) → List (List Char)
  | [] => []
  | [last] => if last.isEmpty then [] else [last]
  | part :: rest => dropReturn part :: linesOfParts rest

/-- The lines of a text, cut at its line feeds. -/
def cut (text : String) : List String :=
  (linesOfParts (text.toList.splitOn '\n')).map String.ofList

theorem linesOfParts_append (parts : List (List Char)) {others : List (List Char)}
    (more : others ≠ []) :
    linesOfParts (parts ++ others) = parts.map dropReturn ++ linesOfParts others := by
  induction parts with
  | nil => rfl
  | cons part rest ih =>
      have behind : rest ++ others ≠ [] := List.append_ne_nil_of_right_ne_nil rest more
      obtain ⟨next, last, same⟩ := List.exists_cons_of_ne_nil behind
      rw [List.cons_append, List.map_cons, List.cons_append, ← ih, same]
      rfl

/-- The characters of a line are collected with the last one first. -/
theorem dropReturn_reverse (current : List Char) :
    dropReturn current.reverse
      = match current with
        | '\r' :: before => before.reverse
        | _ => current.reverse := by
  rw [dropReturn, List.getLast?_reverse]
  cases current with
  | nil => rfl
  | cons c before =>
      by_cases isReturn : c = '\r'
      · subst isReturn
        simp
      · simp [isReturn]

/-- One pass over the characters finds the lines, whatever the first of them has begun with. -/
theorem splitLines_eq (s : List Char) : ∀ current,
    splitLines current s = linesOfParts (List.splitOnPPrepend (· == '\n') s current) := by
  induction s with
  | nil =>
      intro current
      simp [splitLines, linesOfParts]
  | cons c rest ih =>
      intro current
      by_cases feed : c = '\n'
      · subst feed
        have first := linesOfParts_append [current.reverse]
          (List.splitOnP_ne_nil (· == '\n') rest)
        rw [List.map_singleton, List.singleton_append, List.singleton_append] at first
        have later : splitLines current ('\n' :: rest)
            = dropReturn current.reverse :: splitLines [] rest := by
          rw [dropReturn_reverse]
          rfl
        rw [List.splitOnPPrepend_cons_pos (by rfl), first, later, ih [],
          List.splitOnPPrepend_nil_right]
      · rw [List.splitOnPPrepend_cons_neg (by simpa using feed), ← ih (c :: current), splitLines]
        exact fun same => feed same

theorem lines_eq_cut (text : String) : lines text = cut text := by
  rw [lines, cut, splitLines_eq, List.splitOnPPrepend_nil_right, List.splitOn_eq_splitOnP]

/-- No line of a text goes beyond a line feed at which the text is divided. -/
theorem lines_append {front : String} (whole : front = "" ∨ ∃ start, front = start ++ "\n")
    (back : String) : lines (front ++ back) = lines front ++ lines back := by
  rcases whole with rfl | ⟨start, rfl⟩
  · simp [lines, splitLines]
  · have behind : back.toList.splitOn '\n' ≠ [] := List.splitOn_ne_nil _ _
    have feed : (start ++ "\n").toList.splitOn '\n' = start.toList.splitOn '\n' ++ [[]] := by
      rw [String.toList_append]
      exact List.splitOn_append_cons_self _ []
    have divided : (start ++ "\n" ++ back).toList.splitOn '\n'
        = start.toList.splitOn '\n' ++ back.toList.splitOn '\n' := by
      rw [String.toList_append, String.toList_append, List.append_assoc]
      exact List.splitOn_append_cons_self _ _
    simp only [lines_eq_cut, cut, feed, divided, linesOfParts_append _ behind,
      linesOfParts_append _ (List.cons_ne_nil [] []), List.map_append]
    simp [linesOfParts]

end Text

/-! ## Verdicts -/

/-- The row that a warning is about; that a text is no number is said of an operand. -/
def Warning.row? : Warning → Option Nat
  | notNumeric _ _ => none
  | notJson row _ | faulted row _ | noTruth row => some row

/-- Of each record that is skipped there is one warning about its row, and of no other. -/
theorem Verdict.row?_warnings (verdict : Verdict) (row : Nat) :
    (verdict.warnings row).filterMap Warning.row? = if verdict.isSkipped then [row] else [] := by
  cases verdict with
  | selected | rejected | notJson | noTruth => rfl
  | faulted fault => cases fault <;> rfl

namespace Command

/-- A rule has given something true. -/
def givesTrue : Except CommandError Value → Bool
  | .ok value => value.truth? == some true
  | .error _ => false

/-- A rule has given no answer: an error, or an object, which has no truth. -/
def givesNoAnswer : Except CommandError Value → Bool
  | .ok value => value.kind == .object
  | .error _ => true

theorem isNone_truth?_iff (value : Value) : value.truth? = none ↔ value.kind = .object := by
  match value with
  | .scalar scalar => cases scalar <;> simp [Value.truth?, Value.kind, Scalar.kind]
  | .array items => simp [Value.truth?, Value.kind]
  | .object entries => simp [Value.truth?, Value.kind]

section Judge

variable [PatternEngine] [Json.Rounding] {text : String} {rule : Rule}

theorem apply_eq (read : Rule.read text = .ok rule) (line : String) :
    apply text (some line) = match Json.read line with
      | .error error => .error (.data error)
      | .ok data => (rule.runOn data).outcome.mapError .evaluation := by
  simp only [apply, start, readRule, read, readData, outcome]
  cases Json.read line <;> rfl

/-- A record is judged by what the rule gives for its line. -/
theorem verdict_judge (read : Rule.read text = .ok rule) (row : Nat) (line : String) :
    ((rule.judge row line).verdict == .selected) = givesTrue (apply text (some line)) ∧
      (rule.judge row line).verdict.isSkipped = givesNoAnswer (apply text (some line)) := by
  rw [apply_eq read, Rule.judge]
  cases Json.read line with
  | error error => exact ⟨rfl, rfl⟩
  | ok data =>
      simp only [Verdict.ofOutcome]
      cases (rule.runOn data).outcome with
      | error fault => exact ⟨rfl, rfl⟩
      | ok value =>
          have object := isNone_truth?_iff value
          simp only [Except.mapError, givesTrue, givesNoAnswer]
          cases truth : value.truth? with
          | none =>
              have isObject := object.mp truth
              exact ⟨rfl, by simp [isObject, Verdict.isSkipped]⟩
          | some answer =>
              have notObject : value.kind ≠ .object := fun isObject => by
                simp [object.mpr isObject] at truth
              cases answer <;> exact ⟨rfl, by simp [notObject, Verdict.isSkipped]⟩

end Judge

end Command

/-! ## Selections -/

namespace Selection

/-- The records of an input with the numbers of their lines: blank lines are counted, but they hold
no record. -/
def records (input : String) : List (String × Nat) :=
  ((Text.cut input).zipIdx 1).filter fun record => !Text.isBlankText record.1

theorem lines_records (input : String) :
    (records input).map Prod.fst
      = (Text.lines input).filter fun line => !Text.isBlankText line := by
  rw [records, Text.lines_eq_cut]
  conv_rhs => rw [← List.zipIdx_map_fst 1 (Text.cut input), List.filter_map]
  rfl

/-- The records of an input in two pieces are the records of each, with other numbers. -/
theorem lines_records_append {front : String}
    (whole : front = "" ∨ ∃ start, front = start ++ "\n") (back : String) :
    (records (front ++ back)).map Prod.fst
      = (records front).map Prod.fst ++ (records back).map Prod.fst := by
  rw [lines_records, Text.lines_append whole, List.filter_append, ← lines_records, ← lines_records]

section Rowwise

variable [PatternEngine] [Json.Rounding] {text : String} {rule : Rule}

theorem ofInput_eq (rule : Rule) (input : String) :
    ofInput rule input = (records input).map fun record => rule.judge record.2 record.1 := by
  have rows : rows input = (records input).map Prod.swap := by
    rw [Selection.rows, records, Text.lines_eq_cut]
    induction (Text.cut input).zipIdx 1 with
    | nil => rfl
    | cons record rest ih =>
        simp only [List.filterMap_cons, List.filter_cons]
        cases Text.isBlankText record.1 with
        | true => simpa using ih
        | false => simpa using ⟨rfl, ih⟩
  rw [ofInput, rows, List.map_map]
  rfl

theorem judge_row_line (rule : Rule) (row : Nat) (line : String) :
    (rule.judge row line).row = row ∧ (rule.judge row line).line = line := by
  rw [Rule.judge]
  cases Json.read line <;> exact ⟨rfl, rfl⟩

theorem selected_ofInput (read : Rule.read text = .ok rule) (input : String) :
    (ofInput rule input).selected = ((records input).filter fun record =>
      Command.givesTrue (Command.apply text (some record.1))).map Prod.fst := by
  rw [selected, ofInput_eq, List.filter_map, List.map_map]
  congr 1
  · funext record
    exact (judge_row_line rule record.2 record.1).2
  · congr 1
    funext record
    exact (Command.verdict_judge read record.2 record.1).1

theorem skipped_ofInput (read : Rule.read text = .ok rule) (input : String) :
    (ofInput rule input).skipped = (records input).countP fun record =>
      Command.givesNoAnswer (Command.apply text (some record.1)) := by
  rw [skipped, ofInput_eq, List.countP_map]
  congr 1
  funext record
  exact (Command.verdict_judge read record.2 record.1).2

theorem warnings_ofInput (read : Rule.read text = .ok rule) (input : String) :
    (ofInput rule input).warnings.filterMap Warning.row? = ((records input).filter fun record =>
      Command.givesNoAnswer (Command.apply text (some record.1))).map Prod.snd := by
  rw [warnings, ofInput_eq, List.filterMap_flatMap, List.flatMap_map]
  induction records input with
  | nil => rfl
  | cons record rest ih =>
      obtain ⟨row, -⟩ := judge_row_line rule record.2 record.1
      have skipped := (Command.verdict_judge read record.2 record.1).2
      rw [List.flatMap_cons, ih, Verdict.row?_warnings, row, skipped, List.filter_cons]
      split <;> rfl

/-- What is selected, and how much is skipped, does not depend on how far down the lines stand. -/
theorem ofInput_append (read : Rule.read text = .ok rule) {front : String}
    (whole : front = "" ∨ ∃ start, front = start ++ "\n") (back : String) :
    (ofInput rule (front ++ back)).selected
        = (ofInput rule front).selected ++ (ofInput rule back).selected ∧
      (ofInput rule (front ++ back)).skipped
        = (ofInput rule front).skipped + (ofInput rule back).skipped := by
  let selects (line : String) : Bool := Command.givesTrue (Command.apply text (some line))
  let skips (line : String) : Bool := Command.givesNoAnswer (Command.apply text (some line))
  have selected (input : String) :
      (ofInput rule input).selected = ((records input).map Prod.fst).filter selects := by
    rw [selected_ofInput read, List.filter_map]
    rfl
  have skipped (input : String) :
      (ofInput rule input).skipped = ((records input).map Prod.fst).countP skips := by
    rw [skipped_ofInput read, List.countP_map]
    rfl
  constructor
  · rw [selected, selected, selected, lines_records_append whole, List.filter_append]
  · rw [skipped, skipped, skipped, lines_records_append whole, List.countP_append]

end Rowwise

end Selection

namespace Command

section

variable [PatternEngine] [Json.Rounding]

/-- **Selecting is applying to each row.**  A text that is no rule is refused by both commands for
the same reason.  With a rule, selecting has a result: of the lines that are not blank it selects,
in their order, those for which applying the rule gives something true, and skips those for which
that gives an error or an object, with one warning for each that carries the number of its line.
What is selected of an input in two pieces is what is selected of each, unless a line is torn. -/
theorem select_is_rowwise_apply (rule input : String) :
    match Rule.read rule with
    | .error error =>
        select rule input = .error (.rule error) ∧ ∀ data, apply rule data = .error (.rule error)
    | .ok _ => ∃ selection, select rule input = .ok selection ∧
        selection.selected = ((Selection.records input).filter fun record =>
          givesTrue (apply rule (some record.1))).map Prod.fst ∧
        selection.skipped = ((Selection.records input).countP fun record =>
          givesNoAnswer (apply rule (some record.1))) ∧
        selection.warnings.filterMap Warning.row? = ((Selection.records input).filter fun record =>
          givesNoAnswer (apply rule (some record.1))).map Prod.snd ∧
        ∀ back, (input = "" ∨ ∃ start, input = start ++ "\n") →
          ∃ behind together, select rule back = .ok behind ∧
            select rule (input ++ back) = .ok together ∧
            together.selected = selection.selected ++ behind.selected ∧
            together.skipped = selection.skipped + behind.skipped := by
  cases read : Rule.read rule with
  | error error =>
      have refused : readRule rule = .error (.rule error) := by rw [readRule, read]; rfl
      refine ⟨by rw [select, refused]; rfl, fun data => ?_⟩
      rw [apply, start, refused]
      rfl
  | ok r =>
      have accepted (input : String) : select rule input = .ok (.ofInput r input) := by
        rw [select, readRule, read]
        rfl
      refine ⟨_, accepted input, Selection.selected_ofInput read input,
        Selection.skipped_ofInput read input, Selection.warnings_ofInput read input, ?_⟩
      intro back whole
      obtain ⟨selected, skipped⟩ := Selection.ofInput_append read whole back
      exact ⟨_, _, accepted back, accepted (input ++ back), selected, skipped⟩

end

/-- The text of the rule that gives the whole record. -/
def recordText : String := "\x7b\"var\": \"\"\x7d"

/-- A number, a blank line and an object, and then a text that is not JSON, a zero and an array. -/
theorem select_is_rowwise_apply_recordText :
    ∃ selection behind together,
      select recordText "1\r\n \n\x7b\x7d\n" = .ok selection ∧
        selection.selected = ["1"] ∧ selection.skipped = 1 ∧
        selection.warnings.filterMap Warning.row? = [3] ∧
      select recordText "x\n0\n[0]" = .ok behind ∧
        behind.selected = ["[0]"] ∧ behind.skipped = 1 ∧
      select recordText ("1\r\n \n\x7b\x7d\n" ++ "x\n0\n[0]") = .ok together ∧
        together.selected = ["1", "[0]"] ∧ together.skipped = 2 := by
  have read : Rule.read recordText = .ok ⟨.var (.literal (.string "")) none, {}⟩ := by decide
  have front := select_is_rowwise_apply recordText "1\r\n \n\x7b\x7d\n"
  have back := select_is_rowwise_apply recordText "x\n0\n[0]"
  rw [read] at front back
  obtain ⟨selection, selects, selected, skipped, warned, pieces⟩ := front
  obtain ⟨behind, together, selectsBack, selectsBoth, both, bothSkipped⟩ :=
    pieces "x\n0\n[0]" (.inr ⟨"1\r\n \n\x7b\x7d", by decide⟩)
  obtain ⟨_, same, selectedBack, skippedBack, -⟩ := back
  obtain rfl : behind = _ := Except.ok.inj (selectsBack.symm.trans same)
  refine ⟨selection, behind, together, selects, ?_, ?_, ?_, selectsBack, ?_, ?_, selectsBoth,
    ?_, ?_⟩
  · rw [selected]
    decide
  · rw [skipped]
    decide
  · rw [warned]
    decide
  · rw [selectedBack]
    decide
  · rw [skippedBack]
    decide
  · rw [both, selected, selectedBack]
    decide
  · rw [bothSkipped, skipped, skippedBack]
    decide

end Command

end JsonRules
