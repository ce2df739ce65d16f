/-
# JsonRules.Command -- what can be asked for, from texts to results

Each command starts from the text of a rule.  `apply` runs it once on a text of data,
`check` reports on it, and `select` judges the records of an input.  A bad rule is found
before anything else.
-/
import JsonRules.Report
import JsonRules.Selection

namespace JsonRules

set_option autoImplicit false

/-- Why there is no input. -/
inductive InputError where
  /-- The system does not give it, for a reason that has a number. -/
  | system (reason : String) (number : Nat)
  /-- The bytes are no text. -/
  | notText
  deriving DecidableEq

def InputError.message : InputError → String
  | system reason number => reason ++ " (os error " ++ toString number ++ ")"
  | notText => "stream did not contain valid UTF-8"

/-- Why a command has no result. -/
inductive CommandError where
  | rule (error : CompilationError)
  | evaluation (fault : Fault)
  | data (error : Json.ReadError)
  | input (error : InputError)
  deriving DecidableEq

/-- The words for what is behind an error. -/
def CommandError.reason : CommandError → String
  | rule error => error.message
  | evaluation fault => fault.message
  | data error => error.message
  | input error => error.message

/-- The words for an error. -/
def CommandError.message (error : CommandError) : String :=
  (match error with
    | rule _ => "Translation error: "
    | evaluation _ => "Evaluation error: "
    | data _ => "Invalid JSON data: "
    | input _ => "IO error: ") ++ error.reason

namespace Command

variable [PatternEngine] [Json.Rounding]

/-- The rule that a text writes. -/
def readRule (text : String) : Except CommandError Rule := (Rule.read text).mapError .rule

/-- The data that a text writes; without a text it is null. -/
def readData : Option String → Except CommandError Json
  | none => .ok (.scalar .null)
  | some text => (Json.read text).mapError .data

/-- The run of a rule on data, both given as texts. -/
def start (rule : String) (data : Option String) : Except CommandError (Run Value) := do
  let rule ← readRule rule
  let data ← readData data
  return rule.runOn data

/-- How a run ends, for a command. -/
def outcome (run : Run Value) : Except CommandError Value := run.outcome.mapError .evaluation

/-- What a rule gives for data. -/
def apply (rule : String) (data : Option String) : Except CommandError Value := do
  outcome (← start rule data)

/-- The report on a rule. -/
def check (rule : String) : Except CommandError Report := (readRule rule).map .ofRule

/-- The records of an input that a rule selects. -/
def select (rule input : String) : Except CommandError Selection :=
  (readRule rule).map fun rule => .ofInput rule input

end Command

end JsonRules
