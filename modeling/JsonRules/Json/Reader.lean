/-
# JsonRules.Json.Reader -- reading a JSON text

Every reader takes the characters that are left and gives what it read with the
characters behind it.  The reader of values recurses on how deep it may still go, at
most `maxDepth` arrays and objects; the list of elements of an array or an object is
read by one loop for both (`sequence`), whose fuel is the length of the text, since an
element takes at least one character.

Of two entries with one key an object keeps the later, and it keeps its keys sorted.
-/
import JsonRules.Json.Error
import JsonRules.Json.Numeral

namespace JsonRules.Json

set_option autoImplicit false

variable [Rounding]

namespace Reader

/-- Stops `ahead` bytes into what is left. -/
def stop {α : Type} (cause : Cause) (ahead : Nat) (rest : List Char) : Except Stop α :=
  .error ⟨cause, byteSize rest - ahead⟩

/-- Spaces between the parts of a text. -/
def isBlank (c : Char) : Bool := c = ' ' || c = '\n' || c = '\t' || c = '\r'

def skipBlanks (s : List Char) : List Char := s.dropWhile isBlank

/-- The longest run of digits in front, and what is behind it. -/
def digits (s : List Char) : List Char × List Char :=
  (s.takeWhile Char.isDigit, s.dropWhile Char.isDigit)

/-! ## Words -/

/-- Reads the letters `expected`. -/
def word : (expected rest : List Char) → Except Stop (List Char)
  | [], rest => .ok rest
  | _ :: _, [] => stop .endInValue 0 []
  | e :: expected, c :: rest =>
      if c = e then word expected rest else stop .notAWord 1 (c :: rest)

/-! ## Numbers -/

/-- The digits before the point; a zero stands alone. -/
def wholeDigits : List Char → Except Stop (List Char × List Char)
  | [] => stop .endInValue 0 []
  | c :: rest =>
      if c = '0' then
        match rest with
        | d :: _ => if d.isDigit then stop .badNumber 1 rest else .ok (['0'], rest)
        | [] => .ok (['0'], rest)
      else if c.isDigit then .ok (digits (c :: rest))
      else stop .badNumber 1 (c :: rest)

/-- The digits behind a point, at least one; none where there is no point. -/
def fractionDigits : List Char → Except Stop (List Char × List Char)
  | '.' :: rest =>
      match digits rest with
      | ([], []) => stop .endInValue 0 []
      | ([], behind) => stop .badNumber 1 behind
      | (ds, behind) => .ok (ds, behind)
  | s => .ok ([], s)

/-- The greatest exponent that may be written. -/
def maxExponent : Nat := 0x7fffffff

/-- What is behind the digit that takes an exponent past the greatest one. -/
def overflow? (value : Nat) : List Char → Option (List Char)
  | [] => none
  | c :: rest =>
      if c.isDigit then
        let value := 10 * value + Decimal.digitValue c
        if maxExponent < value then some rest else overflow? value rest
      else none

/-- The exponent, with its sign; `none` where there is none.  An exponent past the greatest is
refused if it makes a number large: `small` says that the digits before it are all zero. -/
def exponentPart (small : Bool) : List Char → Except Stop (Option Int × List Char)
  | [] => .ok (none, [])
  | c :: rest =>
      if c = 'e' || c = 'E' then
        let (negative, rest) :=
          match rest with
          | '+' :: behind => (false, behind)
          | '-' :: behind => (true, behind)
          | _ => (false, rest)
        match digits rest with
        | ([], []) => stop .endInValue 0 []
        | ([], behind) => stop .badNumber 1 behind
        | (ds, behind) =>
            match overflow? 0 rest, negative || small with
            | some past, false => stop .numberOutOfRange 0 past
            | _, _ => .ok (some (if negative then -Decimal.ofDigits ds else Decimal.ofDigits ds), behind)
      else .ok (none, c :: rest)

/-- Takes the text of a number apart. -/
def numeral (s : List Char) : Except Stop (Numeral × List Char) := do
  let (negative, s) := match s with
    | '-' :: rest => (true, rest)
    | _ => (false, s)
  let (whole, s) ← wholeDigits s
  let (fraction, s) ← fractionDigits s
  let (exponent, s) ← exponentPart ((whole ++ fraction).all (· = '0')) s
  .ok (⟨negative, whole, fraction, exponent⟩, s)

/-- Reads a number. -/
def number (s : List Char) : Except Stop (Number × List Char) := do
  let (n, s) ← numeral s
  match n.value? with
  | some value => .ok (value, s)
  | none => stop .numberOutOfRange 0 s

/-! ## Strings -/

/-- The value of a hexadecimal digit. -/
def hexValue? (c : Char) : Option Nat :=
  if '0' ≤ c ∧ c ≤ '9' then some (c.toNat - '0'.toNat)
  else if 'a' ≤ c ∧ c ≤ 'f' then some (c.toNat - 'a'.toNat + 10)
  else if 'A' ≤ c ∧ c ≤ 'F' then some (c.toNat - 'A'.toNat + 10)
  else none

/-- Reads four hexadecimal digits; four bytes are looked at, whatever they hold. -/
def hexDigits (s : List Char) : Except Stop (Nat × List Char) :=
  match s with
  | a :: b :: c :: d :: rest =>
      match hexValue? a, hexValue? b, hexValue? c, hexValue? d with
      | some a, some b, some c, some d => .ok (((a * 16 + b) * 16 + c) * 16 + d, rest)
      | _, _, _, _ => stop .badEscape 4 s
  | _ => if byteSize s < 4 then stop .endInString 0 [] else stop .badEscape 4 s

/-- The second half of a surrogate pair whose first half is `high`. -/
def lowSurrogate (high : Nat) : List Char → Except Stop (Char × List Char)
  | [] => stop .endInString 0 []
  | '\\' :: [] => stop .endInString 0 []
  | '\\' :: 'u' :: rest => do
      let (low, rest) ← hexDigits rest
      if 0xDC00 ≤ low && low ≤ 0xDFFF then
        .ok (Char.ofNat (0x10000 + (high - 0xD800) * 0x400 + (low - 0xDC00)), rest)
      else stop .loneSurrogate 0 rest
  | '\\' :: rest => stop .unfinishedSurrogate 1 rest
  | rest => stop .unfinishedSurrogate 1 rest

/-- Reads what is behind a backslash. -/
def escape : List Char → Except Stop (Char × List Char)
  | [] => stop .endInString 0 []
  | '"' :: rest => .ok ('"', rest)
  | '\\' :: rest => .ok ('\\', rest)
  | '/' :: rest => .ok ('/', rest)
  | 'b' :: rest => .ok ('\x08', rest)
  | 'f' :: rest => .ok ('\x0c', rest)
  | 'n' :: rest => .ok ('\n', rest)
  | 'r' :: rest => .ok ('\r', rest)
  | 't' :: rest => .ok ('\t', rest)
  | 'u' :: rest => do
      let (unit, rest) ← hexDigits rest
      if 0xDC00 ≤ unit && unit ≤ 0xDFFF then stop .loneSurrogate 0 rest
      else if 0xD800 ≤ unit && unit ≤ 0xDBFF then lowSurrogate unit rest
      else .ok (Char.ofNat unit, rest)
  | rest => stop .badEscape 1 rest

/-- Reads the characters of a string up to and with its closing quote; `fuel` bounds how many
there are. -/
def stringBody : (fuel : Nat) → List Char → Except Stop (List Char × List Char)
  | 0, _ | _, [] => stop .endInString 0 []
  | _ + 1, '"' :: rest => .ok ([], rest)
  | fuel + 1, '\\' :: rest => do
      let (c, rest) ← escape rest
      let (cs, rest) ← stringBody fuel rest
      .ok (c :: cs, rest)
  | fuel + 1, c :: rest =>
      if c.toNat < 0x20 then stop .controlCharacter 1 (c :: rest)
      else do
        let (cs, rest) ← stringBody fuel rest
        .ok (c :: cs, rest)

/-- Reads a string whose opening quote has been read. -/
def string (s : List Char) : Except Stop (String × List Char) := do
  let (cs, rest) ← stringBody s.length s
  .ok (String.ofList cs, rest)

/-! ## Arrays and objects -/

/-- What tells an array from an object, for the loop that reads their elements. -/
structure Brackets where
  close : Char
  unfinished : Cause
  noComma : Cause

def Brackets.array : Brackets := ⟨']', .endInArray, .noCommaInArray⟩

def Brackets.object : Brackets := ⟨'}', .endInObject, .noCommaInObject⟩

variable {α : Type}

/-- Reads elements with commas between them, up to and with the closing bracket. -/
def elements (brackets : Brackets) (element : List Char → Except Stop (α × List Char)) :
    (fuel : Nat) → List Char → Except Stop (List α × List Char)
  | 0, _ => stop brackets.unfinished 0 []
  | fuel + 1, s => do
      let (x, rest) ← element s
      match skipBlanks rest with
      | [] => stop brackets.unfinished 0 []
      | c :: rest =>
          if c = brackets.close then .ok ([x], rest)
          else if c = ',' then
            match skipBlanks rest with
            | [] => stop .endInValue 0 []
            | d :: behind =>
                if d = brackets.close then stop .trailingComma 1 (d :: behind)
                else do
                  let (xs, rest) ← elements brackets element fuel (d :: behind)
                  .ok (x :: xs, rest)
          else stop brackets.noComma 1 (c :: rest)

/-- Reads what stands between two brackets, the opening one of which has been read. -/
def sequence (brackets : Brackets) (element : List Char → Except Stop (α × List Char)) (s : List Char) :
    Except Stop (List α × List Char) :=
  match skipBlanks s with
  | [] => stop brackets.unfinished 0 []
  | c :: rest =>
      if c = brackets.close then .ok ([], rest)
      else elements brackets element s.length (c :: rest)

/-- Reads a key, a colon and what stands under the key. -/
def entry (value : List Char → Except Stop (α × List Char)) : List Char → Except Stop ((String × α) × List Char)
  | '"' :: s => do
      let (key, s) ← string s
      match skipBlanks s with
      | ':' :: s => do
          let (x, s) ← value s
          .ok ((key, x), s)
      | [] => stop .endInObject 0 []
      | s => stop .noColon 1 s
  | s => stop .keyNotString 1 s

/-! ## Values -/

/-- Reads a value with at most `depth` arrays and objects around its innermost place. -/
def value (depth : Nat) (s : List Char) : Except Stop (Json × List Char) :=
  match skipBlanks s with
  | [] => stop .endInValue 0 []
  | 'n' :: rest => do .ok (.scalar .null, ← word ['u', 'l', 'l'] rest)
  | 't' :: rest => do .ok (.scalar (.bool true), ← word ['r', 'u', 'e'] rest)
  | 'f' :: rest => do .ok (.scalar (.bool false), ← word ['a', 'l', 's', 'e'] rest)
  | '"' :: rest => do
      let (text, rest) ← string rest
      .ok (.scalar (.string text), rest)
  | '[' :: rest =>
      match depth with
      | 0 => stop .tooDeep 1 ('[' :: rest)
      | depth + 1 => do
          let (items, rest) ← sequence .array (value depth) rest
          .ok (.array items, rest)
  | '{' :: rest =>
      match depth with
      | 0 => stop .tooDeep 1 ('{' :: rest)
      | depth + 1 => do
          let (entries, rest) ← sequence .object (entry (value depth)) rest
          .ok (.object (Entries.ofList entries), rest)
  | c :: rest =>
      if c = '-' || c.isDigit then do
        let (n, rest) ← number (c :: rest)
        .ok (.scalar (.number n), rest)
      else stop .notAValue 1 (c :: rest)

/-- The most arrays and objects around a place of a text. -/
def maxDepth : Nat := 127

/-- Reads a whole text: one value, and nothing but blanks around it. -/
def document (s : List Char) : Except Stop Json := do
  let (json, rest) ← value maxDepth s
  match skipBlanks rest with
  | [] => .ok json
  | rest => stop .trailingCharacters 1 rest

end Reader

/-- The document that a text writes, or why and where it is not one. -/
def read (text : String) : Except ReadError Json :=
  match Reader.document text.toList with
  | .ok json => .ok json
  | .error stop => .error (stop.locate text.toList)

end JsonRules.Json
