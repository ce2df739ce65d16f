/-
# JsonRules.Main -- the program

Reads the input that a command line needs, prints what the command prints, and ends with its
status.
-/
import JsonRules.CommandLine

namespace JsonRules

set_option autoImplicit false

/-- What is printed for a command line that is not understood. -/
def usage : String :=
  "usage: jsonrules apply RULE [--data JSON] [--pretty]\n"
    ++ "       jsonrules check RULE [--normalized]\n"
    ++ "       jsonrules select RULE [--input FILE] [--count]\n"
    ++ "       jsonrules ops\n"

/-- The reason of the system for not giving input. -/
def inputError : IO.Error → InputError
  | .noFileOrDirectory _ number reason => .system reason number.toNat
  | .permissionDenied _ number reason => .system reason number.toNat
  | .inappropriateType _ number reason => .system reason number.toNat
  | .invalidArgument _ number reason => .system reason number.toNat
  | error => .system (toString error) 0

/-- Reads input to its end. -/
def readSource : Source → IO ByteArray
  | .standardInput => do (← IO.getStdin).readBinToEnd
  | .file path => IO.FS.readBinFile path

/-- The input of a command.  A rule that is applied does not wait for a terminal. -/
def readInput (invocation : Invocation) : IO (Option (Except InputError ByteArray)) := do
  match invocation, invocation.source? with
  | _, none => return none
  | .apply _ _ _, some .standardInput =>
      if ← (← IO.getStdin).isTty then return none
      else return some ((← (readSource .standardInput).toBaseIO).mapError inputError)
  | _, some source => return some ((← (readSource source).toBaseIO).mapError inputError)

end JsonRules

open JsonRules in
def main (words : List String) : IO UInt32 := do
  match Invocation.ofWords? words with
  | none =>
      IO.eprint usage
      return 2
  | some invocation =>
      let output := invocation.run (← readInput invocation)
      IO.print output.standardOutput
      IO.eprint output.standardError
      return UInt32.ofNat output.status
