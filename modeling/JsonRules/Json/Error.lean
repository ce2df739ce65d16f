/-
# JsonRules.Json.Error -- why and where a text is not JSON

A reader that stops says why (`Cause`) and how much of the text it had not read
(`Stop`).  The place shown to a user, a line and a column counted in bytes, is
worked out from that afterwards (`Stop.locate`), so that reading itself keeps no
count.
-/

namespace JsonRules.Json

set_option autoImplicit false

-- Sums start at the built-in zero, also where Mathlib is imported.
attribute [local instance (high)] Zero.ofOfNat0

/-- Why a text is not JSON. -/
inductive Cause where
  | endInValue
  | endInArray
  | endInObject
  | endInString
  | notAValue
  | notAWord
  | noColon
  | noCommaInArray
  | noCommaInObject
  | trailingComma
  | trailingCharacters
  | keyNotString
  | badNumber
  | numberOutOfRange
  | badEscape
  | loneSurrogate
  | unfinishedSurrogate
  | controlCharacter
  | tooDeep
  deriving DecidableEq, Repr

/-- The words for a cause. -/
def Cause.message : Cause → String
  | endInValue => "EOF while parsing a value"
  | endInArray => "EOF while parsing a list"
  | endInObject => "EOF while parsing an object"
  | endInString => "EOF while parsing a string"
  | notAValue => "expected value"
  | notAWord => "expected ident"
  | noColon => "expected `:`"
  | noCommaInArray => "expected `,` or `]`"
  | noCommaInObject => "expected `,` or `\x7d`"
  | trailingComma => "trailing comma"
  | trailingCharacters => "trailing characters"
  | keyNotString => "key must be a string"
  | badNumber => "invalid number"
  | numberOutOfRange => "number out of range"
  | badEscape => "invalid escape"
  | loneSurrogate => "lone leading surrogate in hex escape"
  | unfinishedSurrogate => "unexpected end of hex escape"
  | controlCharacter => "control character (\\u0000-\\u001F) found while parsing a string"
  | tooDeep => "recursion limit exceeded"

/-- A text that is not JSON, with the place where that shows: lines are counted from one,
columns in bytes, and a column is zero right behind a line break. -/
structure ReadError where
  cause : Cause
  line : Nat
  column : Nat
  deriving DecidableEq, Repr

def ReadError.message (e : ReadError) : String :=
  e.cause.message ++ " at line " ++ toString e.line ++ " column " ++ toString e.column

/-- The bytes that characters take. -/
def byteSize (text : List Char) : Nat := (text.map Char.utf8Size).sum

/-- A reader has stopped with so many bytes of the text not read. -/
structure Stop where
  cause : Cause
  unread : Nat
  deriving DecidableEq, Repr

namespace Stop

/-- The line and column reached after `bytes` bytes of a text, from a given line and column. -/
def place : (bytes line column : Nat) → List Char → Nat × Nat
  | bytes, line, column, [] => (line, column + bytes)
  | bytes, line, column, c :: rest =>
      if bytes = 0 then (line, column)
      else if c = '\n' then place (bytes - 1) (line + 1) 0 rest
      else if bytes ≤ c.utf8Size then (line, column + bytes)
      else place (bytes - c.utf8Size) line (column + c.utf8Size) rest

/-- The place in `text` at which a reader has stopped. -/
def locate (stop : Stop) (text : List Char) : ReadError :=
  let (line, column) := place (byteSize text - stop.unread) 1 0 text
  ⟨stop.cause, line, column⟩

end Stop

end JsonRules.Json
