/-
# JsonRules.Sink -- where log lines go

A sink is anything to which texts can be written one after the other (`Writable`).  A write may
fail, and what becomes of the sink then is its own affair.

A logged value is a line: its compact text, and then a line break.  If one of the two cannot be
written, the line ends there, and it is not an error for anybody else (`Writable.log`).
-/
import JsonRules.Value.Printer

namespace JsonRules

set_option autoImplicit false

/-- A kind of sinks.  A write fails with a reason. -/
class Writable (S : Type) where
  write : String → ExceptT String (StateM S) Unit

namespace Writable

variable {S : Type} [Writable S]

/-- Writes the line of a value. -/
def writeLine (value : Value) : ExceptT String (StateM S) Unit := do
  write value.compact
  write "\n"

/-- Logs a value; a failure to write its line is passed over. -/
def log (value : Value) : StateM S Unit := do
  let _ ← (writeLine value).run

/-- What becomes of a sink when values are logged. -/
def logAll (values : List Value) (sink : S) : S :=
  values.foldl (fun sink value => ((log value).run sink).2) sink

end Writable

/-- A sink in memory: what has been written, how often something was to be written, and when it
works. -/
structure Sink where
  written : String := ""
  offered : Nat := 0
  accepts : Nat → Bool := fun _ => true

namespace Sink

/-- A text is written as a whole or not at all. -/
def write (text : String) : ExceptT String (StateM Sink) Unit := do
  let sink ← getModify fun sink => { sink with offered := sink.offered + 1 }
  unless sink.accepts sink.offered do throw "not accepted"
  modify fun sink => { sink with written := sink.written ++ text }

instance : Writable Sink := ⟨write⟩

/-- Logs values. -/
def log (sink : Sink) (values : List Value) : Sink := Writable.logAll values sink

end Sink

end JsonRules
