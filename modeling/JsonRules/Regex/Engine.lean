/-
# JsonRules.Regex.Engine -- regular expressions as a library

What the reader of regular expressions and the matcher make up together.  The reader does not
tell why a text is no pattern, so the reasons come from elsewhere.
-/
import JsonRules.Pattern
import JsonRules.Regex.Reader

namespace JsonRules.Regex

set_option autoImplicit false

/-- The library that compiles and matches as this one does, with reasons from `explain`. -/
abbrev engine (explain : String → String) : PatternEngine where
  Matcher := Regex CharSet Edge
  compile text := (ofPattern? text).elim (.error (explain text)) .ok
  isMatch := isMatch

theorem compile_engine_of_some {explain : String → String} {text : String}
    {regex : Regex CharSet Edge} (valid : ofPattern? text = some regex) :
    (engine explain).compile text = .ok regex :=
  congrArg (Option.elim · (.error (explain text)) Except.ok) valid

theorem compile_engine_of_none {explain : String → String} {text : String}
    (invalid : ofPattern? text = none) :
    (engine explain).compile text = .error (explain text) :=
  congrArg (Option.elim · (.error (explain text)) Except.ok) invalid

end JsonRules.Regex
