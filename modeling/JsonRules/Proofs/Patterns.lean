/-
# JsonRules.Proofs.Patterns -- patterns that are spelled out and patterns that are computed

A pattern that is a literal is compiled when the rule is read, and any other one when the match
runs, after the subject.  A join of a single text is such another one, though its text is as well
known.

If the text is a valid pattern, the two matches are read and run alike (`Expr.eval_spelledMatch`,
`Expr.eval_computedMatch`).  If it is not, the first one is no rule, and the second one ends with a
fault: with that of its subject, or else with one about the pattern.  The error and the fault both
carry the text, and the reason that the library gives for it
(`Expr.spelled_and_computed_patterns_agree`).
-/
import JsonRules.Proofs.Forms
import JsonRules.Proofs.Loops
import JsonRules.Regex.Engine

namespace JsonRules

set_option autoImplicit false

section

/-! ## The two matches as forms -/

/-- Asks whether a subject matches a pattern that is spelled out. -/
def spelledMatch (text : String) (subject : Json) : Json :=
  Operator.regex.form [.scalar (.string text), subject]

/-- Asks whether a subject matches a pattern that is computed, from a single text. -/
def computedMatch (text : String) (subject : Json) : Json :=
  Operator.regex.form [(Operator.fold .concat).form [.scalar (.string text)], subject]

variable [PatternEngine]

/-- The expression that computes a text by joining it with nothing. -/
def Expr.joined (text : String) : Expr := call (.fold .concat) [literal (.string text)]

namespace Compilation

variable {form : Json} {e : Expr} {table later : NameTable}

/-- A pattern that is spelled out is compiled, or refused, after the subject has been read. -/
theorem ofJson_spelledMatch (read : ofJson form table = .ok e later) (text : String) :
    ofJson (spelledMatch text form) table
      = match Pattern.compile text with
        | .ok pattern => .ok (.regex (.literal (.string text)) e (some pattern)) later
        | .error error => .error (.invalidPattern error) later := by
  have each : ReadsInTurn [.scalar (.string text), form] [.literal (.string text), e] table later :=
    ((readsInTurn_nil later).cons read).cons (namesNothing_scalar _ table)
  rw [spelledMatch, ofJson_form each, build_regex]
  simp only [compileSpelled, Expr.text?, compilePattern]
  cases Pattern.compile text <;> rfl

theorem ofJson_computedMatch (read : ofJson form table = .ok e later) (text : String) :
    ofJson (computedMatch text form) table = .ok (.regex (.joined text) e none) later := by
  have joined : NamesNothing ((Operator.fold .concat).form [.scalar (.string text)])
      (.joined text) :=
    namesNothing_call (.cons (namesNothing_scalar (.string text)) .nil) nofun nofun (Nat.le_refl 1)
  have each : ReadsInTurn [_, form] [.joined text, e] table later :=
    ((readsInTurn_nil later).cons read).cons (joined table)
  rw [computedMatch, ofJson_form each, build_regex]
  rfl

end Compilation

/-! ## The two matches as runs -/

namespace Expr

variable {scope : Scope}

/-- The text in which a pattern is looked for. -/
def subjectText (subject : Expr) (scope : Scope) : Run String := do
  Coercion.toText .regex (← subject.eval scope)

/-- The fault of a match whose pattern is invalid: the subject comes first, with its own fault or
for want of a text. -/
def invalidMatch (error : PatternError) : Except Fault Value → Fault
  | .error fault => fault
  | .ok value =>
      match value.text? with
      | none => .type .regex [value.kind]
      | some _ => .regex error

theorem eval_spelledMatch (text : String) (subject : Expr) (pattern : Pattern) (scope : Scope) :
    (regex (literal (.string text)) subject (some pattern)).eval scope = do
      return .bool (pattern.isMatch (← subjectText subject scope)) := by
  rw [subjectText, bind_assoc]
  rfl

/-- A computed pattern is compiled after the subject has run. -/
theorem eval_computedMatch (text : String) (subject : Expr) (scope : Scope) :
    (regex (joined text) subject none).eval scope = do
      let found ← subjectText subject scope
      let pattern ← Meaning.patternOf (.string text)
      return .bool (pattern.isMatch found) := by
  rw [subjectText, bind_assoc]
  rfl

theorem patternOf_string (text : String) :
    Meaning.patternOf (.string text)
      = match Pattern.compile text with
        | .ok pattern => .ok pattern
        | .error error => .error (.regex error) := by
  rw [Meaning.patternOf]
  rfl

/-- With an invalid pattern, what happens is what happens in the subject. -/
theorem eval_computedMatch_of_invalid {text : String} {error : PatternError}
    (invalid : Pattern.compile text = .error error) (subject : Expr) (scope : Scope) :
    (regex (joined text) subject none).eval scope
      = ⟨(subject.eval scope).events, .error (invalidMatch error (subject.eval scope).outcome)⟩ := by
  rw [eval_computedMatch, patternOf_string, invalid, subjectText, bind_assoc]
  cases ended : (subject.eval scope).outcome with
  | error fault => exact Run.bind_of_error ended _
  | ok value =>
      rw [Run.bind_of_ok ended, Coercion.toText, invalidMatch]
      cases value.text? with
      | none | some found => exact congrArg (Run.mk · _) (List.append_nil _)

/-- **Patterns that are spelled out and computed ones agree.**  Let the subject of a match be read.
If a text compiles, then the match that spells it out and the match that computes it are both read,
and run alike: the subject runs, and is searched.  If the library refuses the text for a reason, the
first match is no rule, and the error carries text and reason.  The second one is read, and ends with
the fault of its subject, if that has a fault or no text, and otherwise with a fault that carries the
same text and reason. -/
theorem spelled_and_computed_patterns_agree (text : String) {form : Json} {subject : Expr}
    {table later : NameTable} (read : Compilation.ofJson form table = .ok subject later) :
    ∃ computed, Compilation.ofJson (computedMatch text form) table = .ok computed later ∧
      (∀ matcher, PatternEngine.compile text = .ok matcher →
        ∃ spelled, Compilation.ofJson (spelledMatch text form) table = .ok spelled later ∧
          ∀ scope, spelled.eval scope = computed.eval scope ∧
            spelled.eval scope = do
              return .bool (PatternEngine.isMatch matcher (← subjectText subject scope))) ∧
      (∀ reason, PatternEngine.compile text = .error reason →
        Compilation.ofJson (spelledMatch text form) table
          = .error (.invalidPattern ⟨text, reason⟩) later ∧
        ∀ scope, computed.eval scope
          = ⟨(subject.eval scope).events,
              .error (invalidMatch ⟨text, reason⟩ (subject.eval scope).outcome)⟩) := by
  have spells := Compilation.ofJson_spelledMatch read text
  refine ⟨_, Compilation.ofJson_computedMatch read text, fun matcher compiled => ?_,
    fun reason failed => ?_⟩
  · have valid := Pattern.compile_of_ok compiled
    rw [valid] at spells
    refine ⟨_, spells, fun scope => ⟨?_, eval_spelledMatch text subject _ scope⟩⟩
    rw [eval_spelledMatch, eval_computedMatch, patternOf_string, valid]
    rfl
  · have invalid := Pattern.compile_of_error failed
    rw [invalid] at spells
    exact ⟨spells, eval_computedMatch_of_invalid invalid subject⟩

end Expr

end

namespace Expr

/-- What is said of a parenthesis that is not closed. -/
def unclosed : String := "regex parse error:\n    (\n    ^\nerror: unclosed group"

/-- A library that knows of no other mistake. -/
abbrev explaining : PatternEngine := Regex.engine fun _ => unclosed

attribute [local instance (high)] explaining

/-- Asks for a variable. -/
def nameForm : Json := .object [("var", .scalar (.string "name"))]

/-- `b+` is found in `abba`.  A single parenthesis is no pattern, and no rule spells it out; where
it is computed, a subject without a text comes first. -/
theorem spelled_and_computed_patterns_agree_parenthesis :
    let table : NameTable := { names := ["name"], slots := [("name", 0)] }
    let gives (value : Value) : Scope := .host fun _ _ => some value
    Compilation.ofJson nameForm {} = .ok (.var (.literal (.string "name")) (some 0)) table ∧
      (∃ spelled computed, Compilation.ofJson (spelledMatch "b+" nameForm) {} = .ok spelled table ∧
        Compilation.ofJson (computedMatch "b+" nameForm) {} = .ok computed table ∧
        spelled.eval (gives (.string "abba")) = computed.eval (gives (.string "abba")) ∧
        (spelled.eval (gives (.string "abba"))).outcome = .ok (.bool true)) ∧
      ∃ computed, Compilation.ofJson (computedMatch "(" nameForm) {} = .ok computed table ∧
        Compilation.ofJson (spelledMatch "(" nameForm) {}
          = .error (.invalidPattern ⟨"(", unclosed⟩) table ∧
        (computed.eval (gives (.string "abba"))).outcome = .error (.regex ⟨"(", unclosed⟩) ∧
        (computed.eval (gives (.array []))).outcome = .error (.type .regex [.array]) := by
  intro table gives
  have read : Compilation.ofJson nameForm {} = .ok (.var (.literal (.string "name")) (some 0))
    table := rfl
  have search : (Regex.ofPattern? "b+").map (Regex.isMatch · "abba") = some true := by
    decide +kernel
  obtain ⟨regex, valid, found⟩ := Option.map_eq_some_iff.mp search
  have compiled : PatternEngine.compile "b+" = .ok regex := Regex.compile_engine_of_some valid
  have invalid : Regex.ofPattern? "(" = none := by decide +kernel
  have failed : PatternEngine.compile "(" = .error unclosed :=
    Regex.compile_engine_of_none invalid
  obtain ⟨computed, reads, agree, -⟩ := spelled_and_computed_patterns_agree "b+" read
  obtain ⟨spelled, spells, alike⟩ := agree regex compiled
  obtain ⟨broken, computes, -, stops⟩ := spelled_and_computed_patterns_agree "(" read
  obtain ⟨refuses, fails⟩ := stops unclosed failed
  have ends : (spelled.eval (gives (.string "abba"))).outcome
      = .ok (.bool (PatternEngine.isMatch regex "abba")) := congrArg Run.outcome (alike _).2
  have answer : PatternEngine.isMatch regex "abba" = true := found
  rw [answer] at ends
  exact ⟨read, ⟨spelled, computed, spells, reads, (alike _).1, ends⟩, broken, computes, refuses,
    congrArg Run.outcome (fails _), congrArg Run.outcome (fails _)⟩

end Expr

end JsonRules
