/-
# JsonRules.Proofs.Logging -- log operators are transparent

A log operator has the value of its operand, and a line with this value goes to the sink.  This
module says that there is nothing more to it (`Expr.log_is_transparent`).

* Evaluation writes the lines as it goes, and a write may fail in any way (`Expr.evalWriting`).  A
  sink works if every text that is written ends up behind what the sink has (`Writable.Works`).
* `Expr.unlogged` takes the log operators out of a rule and leaves their operands.
* `Expr.evalNoting` evaluates a rule with other events in place of log lines: when the operand of
  a log operator has ended with a value, this value is noted as one likes.  So the notes list the
  log operators that are evaluated, in order.  A run with notes is the run with lines in which each
  line is replaced by its note, and nothing else is changed (`Expr.evalNoting_eq`).
* The compact text of a value has no line break (`Value.newline_not_mem_compact`).
-/
import JsonRules.Libraries
import JsonRules.Proofs.Docs
import JsonRules.Proofs.Documents
import JsonRules.Proofs.Writing

namespace JsonRules

set_option autoImplicit false

/-! ## Sinks that work -/

/-- Every write succeeds and puts its text behind the content of the sink. -/
structure Writable.Works {S : Type} [Writable S] (content : S → String) : Prop where
  write : ∀ (text : String) (sink : S), ∃ after,
    ((Writable.write text).run).run sink = (.ok (), after) ∧ content after = content sink ++ text

namespace Writable.Works

variable {S : Type} [Writable S] {content : S → String}

theorem content_log (works : Works content) (value : Value) (sink : S) :
    content ((log value).run sink).2 = content sink ++ (value.compact ++ "\n") := by
  obtain ⟨halfway, written, first⟩ := works.write value.compact sink
  obtain ⟨after, ended, second⟩ := works.write "\n" halfway
  have line : ((writeLine value).run).run sink = (.ok (), after) := by
    rw [writeLine, ExceptT.run_bind, StateT.run_bind, written]
    exact ended
  have whole : (log value).run sink = ((), after) := by
    rw [log, StateT.run_bind, line]
    rfl
  rw [whole, second, first, String.append_assoc]

/-- A sink that works has all lines behind what it had before. -/
theorem content_logAll (works : Works content) (values : List Value) (sink : S) :
    content (logAll values sink)
      = content sink ++ String.join (values.map fun value => value.compact ++ "\n") := by
  induction values generalizing sink with
  | nil => simp [logAll]
  | cons value rest ih =>
      have step : logAll (value :: rest) sink = logAll rest ((log value).run sink).2 := rfl
      rw [step, ih, works.content_log, List.map_cons, String.join_cons, String.append_assoc]

end Writable.Works

/-! ## Rules without log operators -/

namespace Expr

section Unlogged

variable [PatternEngine]

/-- A node with an operator; one that logs is passed over for its operand. -/
def callUnlogged (op : Operator) (operands : List Expr) : Expr :=
  match op, operands with
  | .log, operand :: _ => operand
  | op, operands => call op operands

mutual

/-- The rule with every log operator replaced by its operand. -/
def unlogged : Expr → Expr
  | literal value => literal value
  | array items => array (unloggedEach items)
  | var name slot => var name.unlogged slot
  | regex pattern subject compiled => regex pattern.unlogged subject.unlogged compiled
  | call op operands => callUnlogged op (unloggedEach operands)

def unloggedEach : List Expr → List Expr
  | [] => []
  | e :: rest => e.unlogged :: unloggedEach rest

end

theorem unloggedEach_eq (operands : List Expr) :
    unloggedEach operands = operands.map unlogged := by
  induction operands with
  | nil => rfl
  | cons e rest ih => rw [unloggedEach, ih, List.map_cons]

end Unlogged

end Expr

/-! ## Notes in place of log lines -/

section Notes

variable (note : Value → List Event)

/-- What is noted for an event: look-ups stay. -/
def Event.noted : Event → List Event
  | .log value => note value
  | .lookup name slot => [.lookup name slot]

/-- The run with notes in place of its log lines. -/
def Run.noted {α : Type} (run : Run α) : Run α :=
  ⟨run.events.flatMap (Event.noted note), run.outcome⟩

theorem Run.noted_ofExcept {α : Type} (outcome : Except Fault α) :
    (Run.ofExcept outcome).noted note = Run.ofExcept outcome := rfl

theorem Run.noted_bind {α β : Type} (run : Run α) (next : α → Run β) :
    (run >>= next).noted note = run.noted note >>= fun result => (next result).noted note := by
  obtain ⟨events, outcome⟩ := run
  cases outcome with
  | error fault => rfl
  | ok result => simp only [noted, Bind.bind, Run.bind, List.flatMap_append]

/-- Notes the value of an operand. -/
def Meaning.noting (operand : Meaning) : Meaning := fun scope => do
  let value ← operand scope
  ⟨note value, .ok ()⟩
  return value

/-- A run with log lines beside one with notes. -/
def Simulation.noting : Simulation where
  Rel r s := s = r.noted note
  ofExcept outcome := (Run.noted_ofExcept note outcome).symm
  bind {α β r s f g} first next := by
    subst first
    obtain ⟨events, outcome⟩ := r
    cases outcome with
    | error fault => rfl
    | ok x =>
        rw [Run.noted_bind]
        simp only [Run.noted, Bind.bind, Run.bind, next x rfl]

namespace Simulation

variable {note} {host : Host}

theorem asks_noting : (noting note).Asks host host := by
  intro σ τ paired name slot
  refine ⟨?_, fun _ _ => trivial⟩
  cases paired <;> rfl

/-- A log operator keeps two such runs together if one of them writes a line and the other a
note. -/
theorem alike_log {m n : Meaning} (alike : (noting note).Alike host host m n) :
    (noting note).Alike host host (Meaning.log m) (Meaning.noting note n) := by
  intro σ τ paired
  refine (alike paired).bind fun value _ => ?_
  have line : (noting note).Ends (fun _ => True) (Run.emit (.log value)) ⟨note value, .ok ()⟩ :=
    ⟨by simp [noting, Run.noted, Run.emit, Event.noted], fun _ _ => trivial⟩
  exact line.bind fun _ _ => .pure trivial

end Simulation

variable [PatternEngine]

/-- The meaning of an operator if log operators note the values of their operands. -/
def Meaning.ofOperatorNoting (op : Operator) (operands : List Meaning) : Meaning :=
  match op, operands with
  | .log, operand :: _ => noting note operand
  | op, operands => ofOperator op operands

mutual

/-- The meaning of a rule if log operators note the values of their operands. -/
def Expr.evalNoting : Expr → Meaning
  | .literal value => fun _ => return value
  | .array items => fun scope => return .array (← Meaning.each (evalNotingEach items) scope)
  | .var name slot => Meaning.var name.evalNoting slot
  | .regex pattern subject compiled =>
      Meaning.matching pattern.evalNoting subject.evalNoting compiled
  | .call op operands => Meaning.ofOperatorNoting note op (evalNotingEach operands)

def Expr.evalNotingEach : List Expr → List Meaning
  | [] => []
  | e :: rest => e.evalNoting :: evalNotingEach rest

end

theorem Expr.evalNotingEach_eq (operands : List Expr) :
    evalNotingEach note operands = operands.map (evalNoting note) := by
  induction operands with
  | nil => rfl
  | cons e rest ih => rw [evalNotingEach, ih, List.map_cons]

namespace Simulation

variable {note} {host : Host}

theorem alike_ofOperatorNoting (op : Operator) {ms ns : List Meaning}
    (all : List.Forall₂ ((noting note).Alike host host) ms ns) :
    (noting note).Alike host host (Meaning.ofOperator op ms)
      (Meaning.ofOperatorNoting note op ns) := by
  by_cases isLog : op = .log
  · subst isLog
    cases all with
    | nil => exact short .log 0
    | cons first rest => exact alike_log first
  · have same : Meaning.ofOperatorNoting note op ns = Meaning.ofOperator op ns := by
      unfold Meaning.ofOperatorNoting
      split
      · exact absurd rfl isLog
      · rfl
    rw [same]
    exact ofOperator (fun _ => asks_noting) (fun same => absurd same isLog) all

theorem alike_evalNoting (e : Expr) :
    (noting note).Alike host host e.eval (e.evalNoting note) := by
  induction e using Expr.induct with
  | literal value => exact fun _ _ _ => .pure trivial
  | array items ih =>
      intro σ τ paired
      simp only [Expr.eval, Expr.evalEach_eq, Expr.evalNoting, Expr.evalNotingEach_eq]
      exact (each (forall₂_map ih) paired).bind fun _ _ => .pure trivial
  | var name slot ih => exact var asks_noting ih slot
  | regex pattern subject compiled ihPattern ihSubject =>
      exact matching ihPattern ihSubject compiled
  | call op operands ih =>
      rw [Expr.eval, Expr.evalEach_eq, Expr.evalNoting, Expr.evalNotingEach_eq]
      exact alike_ofOperatorNoting op (forall₂_map ih)

end Simulation

namespace Expr

/-- A run with notes is the run with log lines, each replaced by its note. -/
theorem evalNoting_eq (e : Expr) (scope : Scope) :
    e.evalNoting note scope = (e.eval scope).noted note :=
  (Simulation.noting note).related_of_alike (fun _ => trivial)
    (fun _ => Simulation.alike_evalNoting e) scope

/-- Nothing noted is as good as no log operator. -/
theorem evalNoting_nil (e : Expr) : e.evalNoting (fun _ => []) = e.unlogged.eval := by
  induction e using induct with
  | literal value => rfl
  | array items ih =>
      rw [evalNoting, evalNotingEach_eq, unlogged, unloggedEach_eq, eval, evalEach_eq,
        List.map_map, List.map_congr_left ih]
      rfl
  | var name slot ih => rw [evalNoting, unlogged, eval, ih]
  | regex pattern subject compiled ihPattern ihSubject =>
      rw [evalNoting, unlogged, eval, ihPattern, ihSubject]
  | call op operands ih =>
      have each : operands.map (evalNoting fun _ => []) = (operands.map unlogged).map eval := by
        rw [List.map_map, List.map_congr_left ih]
        rfl
      rw [evalNoting, evalNotingEach_eq, unlogged, unloggedEach_eq, each]
      generalize operands.map unlogged = rest
      unfold callUnlogged
      split
      · -- an operand whose value is noted by no event
        funext scope
        have nothing : (fun value => (⟨[], .ok ()⟩ : Run Unit) >>= fun _ => pure value)
            = (pure : Value → Run Value) := rfl
        simp only [List.map_cons, Meaning.ofOperatorNoting, Meaning.noting, nothing, bind_pure]
      · rename_i other
        rw [eval, evalEach_eq]
        unfold Meaning.ofOperatorNoting
        split
        · rename_i same
          cases rest with
          | nil => cases same
          | cons operand rest => exact (other operand rest rfl rfl).elim
        · rfl

end Expr

end Notes

/-! ## Log lines are single lines -/

theorem newline_not_mem_toDigits (n : Nat) : '\n' ∉ Nat.toDigits 10 n :=
  fun mem => absurd (Decimal.isDigit_toDigits mem) (by decide)

namespace Decimal

theorem newline_not_mem_integerText (value : Int) : '\n' ∉ integerText value := by
  unfold integerText
  split <;> simp [newline_not_mem_toDigits]

theorem newline_not_mem_decimalText (layout : Layout) (d : Decimal) :
    '\n' ∉ layout.decimalText d := by
  have digits := newline_not_mem_toDigits d.significand
  have taken (n : Nat) : '\n' ∉ (Nat.toDigits 10 d.significand).take n :=
    fun mem => digits (List.mem_of_mem_take mem)
  have dropped (n : Nat) : '\n' ∉ (Nat.toDigits 10 d.significand).drop n :=
    fun mem => digits (List.mem_of_mem_drop mem)
  have positional : '\n' ∉ layout.positionalText (Nat.toDigits 10 d.significand) d.point := by
    unfold Layout.positionalText
    split
    · simp [digits]
    · split
      · simp [taken, dropped]
      · split <;> simp [digits]
  have scientific : '\n' ∉ layout.exponentText (Nat.toDigits 10 d.significand) d.point := by
    unfold Layout.exponentText
    have exponent := newline_not_mem_toDigits (d.point - 1).natAbs
    have fraction : '\n' ∉ if ((Nat.toDigits 10 d.significand).drop 1).isEmpty then []
        else '.' :: (Nat.toDigits 10 d.significand).drop 1 := by
      split
      · exact List.not_mem_nil
      · exact List.not_mem_cons_of_ne_of_not_mem (by decide) (dropped 1)
    have sign : '\n' ∉ if d.point - 1 < 0 then ['-'] else if layout.plus then ['+'] else [] := by
      split
      · decide
      · split <;> decide
    simp only [List.mem_append, List.mem_cons, not_or]
    exact ⟨⟨⟨taken 1, fraction⟩, by decide, sign⟩, exponent⟩
  unfold Layout.decimalText
  split
  · exact positional
  · split
    · exact positional
    · exact scientific

theorem newline_not_mem_render (layout : Layout) (x : Float) : '\n' ∉ layout.render x := by
  unfold Layout.render
  split
  · decide
  · rw [List.mem_append, not_or]
    constructor
    · split <;> decide
    · split
      · decide
      · exact newline_not_mem_decimalText layout _

end Decimal

namespace Scalar

theorem newline_not_mem_escape (c : Char) : '\n' ∉ escape c := by
  unfold escape
  split
  case h_6 notNewline _ _ =>
    split
    · rename_i control
      have small : c.toNat < 0x100 := by
        simp at control
        omega
      have digit : ∀ d < 16, '\n' ≠ Nat.digitChar d := by decide
      rw [Json.Reader.fourDigitEscape_eq small]
      simp [digit (c.toNat / 16) (by omega), digit (c.toNat % 16) (by omega)]
    · rw [List.mem_singleton]
      exact fun same => notNewline same.symm
  all_goals decide

theorem newline_not_mem_quote (text : String) : '\n' ∉ Text.quote escape text := by
  unfold Text.quote
  simp [newline_not_mem_escape]

theorem newline_not_mem_jsonText (scalar : Scalar) : '\n' ∉ scalar.jsonText := by
  cases scalar with
  | null => decide
  | bool value => cases value <;> decide
  | int value => exact Decimal.newline_not_mem_integerText _
  | uint value => exact Decimal.newline_not_mem_integerText _
  | double value =>
      by_cases finite : value.isFinite = true
      · have text : jsonText (double value) = doubleLayout.render value := if_pos finite
        rw [text]
        exact Decimal.newline_not_mem_render doubleLayout value
      · have text : jsonText (double value) = "null".toList := if_neg finite
        rw [text]
        decide
  | string value => exact newline_not_mem_quote value

end Scalar

namespace Value

theorem newline_not_mem_write (value : Value) (depth : Nat) :
    '\n' ∉ Doc.write spelling .compact depth value := by
  have lineBreak (depth : Nat) : Doc.Spacing.compact.lineBreak depth = [] := rfl
  have colon : Doc.Spacing.compact.colon = [':'] := rfl
  induction value using Doc.induct generalizing depth with
  | scalar leaf => exact Scalar.newline_not_mem_jsonText leaf
  | array items ih =>
      cases items with
      | nil => simp [Doc.write]
      | cons item rest =>
          obtain ⟨first, others⟩ := List.forall_mem_cons.mp ih
          simp only [Doc.write, Json.Reader.writeItems_eq, lineBreak]
          simpa [first] using fun item member => others item member (depth + 1)
  | object entries ih =>
      have spelled (key : String) : '\n' ∉ spelling.key key := Scalar.newline_not_mem_quote key
      cases entries with
      | nil => simp [Doc.write]
      | cons entry rest =>
          obtain ⟨first, others⟩ := List.forall_mem_cons.mp ih
          simp only [Doc.write, Json.Reader.writeEntries_eq, Json.Reader.entryText, lineBreak, colon]
          simpa [first, spelled] using fun key item member => others (key, item) member (depth + 1)

/-- The compact text of a value is a single line. -/
theorem newline_not_mem_compact (value : Value) : '\n' ∉ value.compact.toList := by
  rw [compact, String.toList_ofList]
  exact newline_not_mem_write value 0

end Value

namespace Expr

/-- **Log operators are transparent.**  With any sinks, whatever becomes of the lines there, a rule
ends as it does without its log operators.  A sink that works has afterwards, behind what it had
before, one line for each log operator that was evaluated, in order; the line is the text of the
operand's value, without a line break of its own. -/
theorem log_is_transparent [PatternEngine] (e : Expr) (scope : Scope) :
    (∀ {S T : Type} [Writable S] [Writable T] (sink : S) (other : T),
      (e.evalWriting scope sink).1 = (e.unlogged.evalWriting scope other).1) ∧
    (∀ {S : Type} [Writable S] {content : S → String}, Writable.Works content → ∀ sink : S,
      content (e.evalWriting scope sink).2
        = content sink
          ++ String.join ((e.eval scope).logged.map fun value => value.compact ++ "\n")) ∧
    (∀ note : Value → List Event, e.evalNoting note scope = (e.eval scope).noted note) ∧
    ∀ value : Value, '\n' ∉ value.compact.toList := by
  refine ⟨fun sink other => ?_, fun works sink => ?_, fun note => evalNoting_eq note e scope,
    Value.newline_not_mem_compact⟩
  · rw [evalWriting_eq, evalWriting_eq, ← evalNoting_nil, evalNoting_eq]
    rfl
  · rw [evalWriting_eq, works.content_logAll]

/-- A text to which others are appended is a sink. -/
instance : Writable String := ⟨fun text => modify (· ++ text)⟩

/-- A sum of logged values, of which the second is no number. -/
def halfway : Expr :=
  call (.fold .sum)
    [call .log [literal (.int 1)], call .log [literal (.string "a\nb")], call .log [literal .null]]

/-- The third value is not logged, and what the sink had and whether it takes the first line makes no
difference to the fault. -/
theorem log_is_transparent_halfway :
    let scope : Scope := .element .null
    let refusing : Sink := { accepts := fun n => n != 0 }
    Writable.Works (id : String → String) ∧
      (halfway.evalWriting scope refusing).1 = .error (.coercion "a\nb" .double) ∧
      (halfway.evalWriting scope refusing).2.written = "\"a\\nb\"\n" ∧
      (halfway.evalWriting scope "before\n").1 = .error (.coercion "a\nb" .double) ∧
      (halfway.evalWriting scope "before\n").2 = "before\n1\n\"a\\nb\"\n" := by
  intro scope refusing
  have works : Writable.Works (id : String → String) := ⟨fun text sink => ⟨_, rfl, rfl⟩⟩
  obtain ⟨same, lines, -, -⟩ := log_is_transparent halfway scope
  have fault : (halfway.evalWriting scope refusing).1 = .error (.coercion "a\nb" .double) := by
    decide +kernel
  have again : (halfway.unlogged.evalWriting scope "").1 = .error (.coercion "a\nb" .double) := by
    decide +kernel
  refine ⟨works, fault, by decide +kernel, (same _ "").trans again, (lines works _).trans ?_⟩
  decide +kernel

end Expr

end JsonRules
