/-
# JsonRules.Rule -- rules that are ready to be run

A rule is its tree together with the table of the variables that it names.  Reading a rule
starts from an empty table, so a slot of the table is the position of a name among the
names in the order in which they are first used.
-/
import JsonRules.Compilation
import JsonRules.Evaluation
import JsonRules.Json.Reader

namespace JsonRules

set_option autoImplicit false

variable [PatternEngine]

structure Rule where
  root : Expr
  table : NameTable
  deriving DecidableEq

namespace Rule

/-- The rule of a JSON form. -/
def ofJson (json : Json) : Except CompilationError Rule :=
  match Compilation.ofJson json {} with
  | .ok root table => .ok ⟨root, table⟩
  | .error error _ => .error error

/-- The rule that a text writes. -/
def read [Json.Rounding] (text : String) : Except CompilationError Rule :=
  match Json.read text with
  | .ok json => ofJson json
  | .error error => .error (.notJson error)

/-- The normal form of a rule. -/
def toJson (rule : Rule) : Json := rule.root.toJson

/-- The run of a rule with a host for its variables. -/
def run (rule : Rule) (host : Host) : Run Value := rule.root.eval (.host host)

/-- The run of a rule on a record of data. -/
def runOn (rule : Rule) (data : Json) : Run Value := rule.run (.record (.ofJson data))

end Rule

end JsonRules
