/-
# JsonRules.CommandLine -- a command line, from its words to what is printed

The words of a command line ask for a command, which may need input.  What is printed for
it, and the status with which the program ends, depend on nothing but the words and the
input: zero for a result, one for an error, two for words that are not understood.

Values that a rule logs are printed where errors are, before any error.
-/
import JsonRules.Command
import JsonRules.CommandLine.Arguments
import JsonRules.Libraries
import JsonRules.Sink

namespace JsonRules

set_option autoImplicit false

/-- A command as it is asked for. -/
inductive Invocation where
  | apply (rule : String) (data : Option String) (pretty : Bool)
  | check (rule : String) (showNormalized : Bool)
  | select (rule : String) (path : Option String) (onlyCount : Bool)
  | ops
  deriving DecidableEq

/-- Where the input of a command is. -/
inductive Source where
  | standardInput
  | file (path : String)
  deriving DecidableEq

/-- What a command prints, and the status with which the program ends. -/
structure Output where
  status : Nat
  standardOutput : String
  standardError : String
  deriving DecidableEq

namespace Output

/-- A result, after what has been logged. -/
def success (text : String) (log : String) : Output := ⟨0, text, log⟩

/-- An error, after what has been logged. -/
def failure (error : CommandError) (log : String) : Output := ⟨1, "", log ++ error.message ++ "\n"⟩

end Output

namespace CommandLine

def applySignature : Signature := ⟨true, some ⟨'d', "data"⟩, some ⟨'p', "pretty"⟩⟩

def checkSignature : Signature := ⟨true, none, some ⟨'n', "normalized"⟩⟩

def selectSignature : Signature := ⟨true, some ⟨'i', "input"⟩, some ⟨'c', "count"⟩⟩

def opsSignature : Signature := ⟨false, none, none⟩

/-- The lines of a text to be printed. -/
def unlines (lines : List String) : String := String.join (lines.map (· ++ "\n"))

/-- The text that bytes spell. -/
def decode (bytes : ByteArray) : Except InputError String :=
  match String.fromUTF8? bytes with
  | some text => .ok text
  | none => .error .notText

end CommandLine

namespace Invocation

variable [PatternEngine] [Json.Rounding]

open CommandLine

/-- What the words of a command line ask for, if they are understood. -/
def ofWords? : List String → Option Invocation
  | "apply" :: words => do
      let given ← applySignature.read? words
      return .apply (← given.plain) given.option given.flag
  | "check" :: words => do
      let given ← checkSignature.read? words
      return .check (← given.plain) given.flag
  | "select" :: words => do
      let given ← selectSignature.read? words
      if given.option = some "" then failure
      else return .select (← given.plain) given.option given.flag
  | "ops" :: words => (opsSignature.read? words).map fun _ => .ops
  | _ => none

/-- The input that a command needs. -/
def source? : Invocation → Option Source
  | apply _ none _ | select _ none _ => some .standardInput
  | select _ (some path) _ => some (.file path)
  | apply _ (some _) _ | check _ _ | ops => none

/-- What applying a rule to data prints. -/
def runApply (rule : String) (data : Option String) (pretty : Bool) : Output :=
  match Command.start rule data with
  | .error error => .failure error ""
  | .ok run =>
      let log := (Sink.log {} run.logged).written
      match Command.outcome run with
      | .error error => .failure error log
      | .ok value => .success ((if pretty then value.pretty else value.compact) ++ "\n") log

/-- What checking a rule prints. -/
def runCheck (rule : String) (showNormalized : Bool) : Output :=
  match Command.check rule with
  | .error error => .failure error ""
  | .ok report => .success (unlines (report.lines showNormalized)) ""

/-- What selecting records prints. -/
def runSelect (rule input : String) (onlyCount : Bool) : Output :=
  match Command.select rule input with
  | .error error => .failure error ""
  | .ok selection =>
      let text :=
        if onlyCount then [toString selection.selected.length] else selection.selected
      let notice :=
        if selection.skipped = 0 then ""
        else "skipped " ++ toString selection.skipped ++ " record(s)\n"
      .success (unlines text) ((Sink.log {} selection.logged).written ++ notice)

/-- What a command prints for its input.  Without input, rules are applied to null and there are no
records. -/
def run (invocation : Invocation) (input : Option (Except InputError ByteArray)) : Output :=
  match invocation with
  | apply rule (some data) pretty => runApply rule (some data) pretty
  | apply rule none pretty =>
      match input.mapM (· >>= decode) with
      | .error error => .failure (.input error) ""
      | .ok data => runApply rule data pretty
  | check rule showNormalized => runCheck rule showNormalized
  | select rule _ onlyCount =>
      match input.mapM (· >>= decode) with
      | .error error => .failure (.input error) ""
      | .ok text => runSelect rule (text.getD "") onlyCount
  | ops => .success Operator.table ""

end Invocation

end JsonRules
