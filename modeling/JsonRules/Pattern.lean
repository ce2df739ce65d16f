/-
# JsonRules.Pattern -- compiled patterns

Regular expressions are the business of a library.  What is used of it is a `PatternEngine`:
it compiles a text, or says why it cannot, and it looks for a match in a text.  Both are
functions of the texts, and nothing else is known of them here.

A pattern keeps its text together with what the text compiles to, and the proof that it does;
so two patterns with one text are equal (`Pattern.ext_text`).
-/
import JsonRules.Text.Display

namespace JsonRules

set_option autoImplicit false

/-- A library of regular expressions. -/
class PatternEngine where
  Matcher : Type
  /-- What a text compiles to, or a message that says why it is no pattern. -/
  compile : String → Except String Matcher
  /-- Some part of a text matches. -/
  isMatch : Matcher → String → Bool

/-- A text that is no pattern, with the message of the library. -/
structure PatternError where
  text : String
  reason : String
  deriving DecidableEq

/-- The words for a text that is no pattern; a library that gives no reason adds nothing to them. -/
def PatternError.message (error : PatternError) : String :=
  "invalid regex pattern " ++ Text.display error.text
    ++ if error.reason.isEmpty then "" else ": " ++ error.reason

variable [PatternEngine]

/-- A valid pattern with its text. -/
structure Pattern where
  text : String
  matcher : PatternEngine.Matcher
  compiled : PatternEngine.compile text = .ok matcher

namespace Pattern

theorem ext_text {a b : Pattern} (same : a.text = b.text) : a = b := by
  obtain ⟨text, r, hr⟩ := a
  obtain ⟨_, s, hs⟩ := b
  cases same
  cases Except.ok.inj (hr.symm.trans hs)
  rfl

instance : DecidableEq Pattern := fun a b =>
  if same : a.text = b.text then isTrue (ext_text same)
  else isFalse fun equal => same (congrArg text equal)

/-- The pattern of a text. -/
def compile (text : String) : Except PatternError Pattern :=
  match compiled : PatternEngine.compile text with
  | .ok matcher => .ok ⟨text, matcher, compiled⟩
  | .error reason => .error ⟨text, reason⟩

theorem compile_of_ok {text : String} {matcher : PatternEngine.Matcher}
    (compiled : PatternEngine.compile text = .ok matcher) :
    compile text = .ok ⟨text, matcher, compiled⟩ := by
  unfold compile
  split
  · exact congrArg Except.ok (ext_text rfl)
  · rename_i failed
    cases failed.symm.trans compiled

theorem compile_of_error {text reason : String}
    (failed : PatternEngine.compile text = .error reason) :
    compile text = .error ⟨text, reason⟩ := by
  unfold compile
  split
  · rename_i compiled
    cases compiled.symm.trans failed
  · rename_i other
    cases failed.symm.trans other
    rfl

/-- A pattern is the one that its text compiles to. -/
theorem compile_text (pattern : Pattern) : compile pattern.text = .ok pattern :=
  compile_of_ok pattern.compiled

theorem text_of_compile {text : String} {pattern : Pattern} (ok : compile text = .ok pattern) :
    pattern.text = text := by
  cases compiled : PatternEngine.compile text with
  | ok matcher =>
      cases (compile_of_ok compiled).symm.trans ok
      rfl
  | error reason => cases (compile_of_error compiled).symm.trans ok

/-- Some part of the subject matches the pattern. -/
def isMatch (pattern : Pattern) (subject : String) : Bool :=
  PatternEngine.isMatch pattern.matcher subject

end Pattern

end JsonRules
