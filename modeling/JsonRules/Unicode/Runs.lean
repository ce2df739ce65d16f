/-
# JsonRules.Unicode.Runs -- sets of code points as run lengths

A property of characters holds on runs of neighbouring code points.  A set is kept as
the lengths of the runs outside and inside it in turn, from code point zero on, and a
table is written as those lengths in base 36 with blanks between them.
-/

namespace JsonRules.Unicode

set_option autoImplicit false

/-- The value of a digit in base 36. -/
def digit36 (c : Char) : Nat :=
  if c.isDigit then c.toNat - '0'.toNat else c.toNat - 'a'.toNat + 10

/-- The number that digits write in base 36. -/
def number36 (digits : List Char) : Nat :=
  digits.foldl (fun value c => 36 * value + digit36 c) 0

/-- The words on the lines of a table. -/
def words (lines : List String) : List (List Char) :=
  lines.flatMap fun line => (line.splitOn " ").map String.toList

/-- A set of code points: how many lie outside, then inside, then outside it, and so on. -/
structure Runs where
  lengths : List Nat
  deriving DecidableEq

namespace Runs

/-- Reads a table of lengths. -/
def ofLines (lines : List String) : Runs := ⟨(words lines).map number36⟩

/-- Whether the code point `n` places into the runs lies inside. -/
def inside (n : Nat) : List Nat → Bool
  | [] => false
  | length :: rest => if n < length then false else !inside (n - length) rest

/-- The character is in the set. -/
def contains (runs : Runs) (c : Char) : Bool := inside c.toNat runs.lengths

end Runs

/-- Code points cut into runs, each with a label. -/
structure Labels (α : Type) where
  runs : List (α × Nat)

namespace Labels

variable {α : Type}

/-- The label of the code point `n` places into the runs. -/
def labelAt (n : Nat) : List (α × Nat) → Option α
  | [] => none
  | (label, length) :: rest => if n < length then some label else labelAt (n - length) rest

/-- The label of a character. -/
def get? (labels : Labels α) (c : Char) : Option α := labelAt c.toNat labels.runs

/-- Reads a table whose words are a label of `width` letters and a length. -/
def ofLines (width : Nat) (label? : List Char → Option α) (lines : List String) : Labels α :=
  ⟨(words lines).filterMap fun word =>
    (label? (word.take width)).map fun label => (label, number36 (word.drop width))⟩

end Labels

end JsonRules.Unicode
