/-
# JsonRules.Path -- dotted paths into a value

A path names a place in a value.  The empty path is the value itself.  Otherwise a key or an
index that is spelled like the whole path wins; failing that, the part up to the first dot
selects a field of an object or an element of an array, and the rest is a path into that.
-/
import JsonRules.Text.Numeral
import JsonRules.Value

namespace JsonRules.Path

set_option autoImplicit false

/-- The parts of a path between its dots; there is always one. -/
def segments : List Char → List (List Char)
  | [] => [[]]
  | c :: rest =>
      if c = '.' then [] :: segments rest
      else
        match segments rest with
        | [] => [[c]]
        | first :: others => (c :: first) :: others

/-- The path with the given parts. -/
def joined : List (List Char) → List Char
  | [] => []
  | [part] => part
  | part :: rest => part ++ '.' :: joined rest

theorem segments_ne_nil (path : List Char) : segments path ≠ [] := by
  cases path with
  | nil => simp [segments]
  | cons c rest =>
      simp only [segments]
      split
      · simp
      · split <;> simp

/-- Cutting a path at its dots loses nothing. -/
theorem joined_segments (path : List Char) : joined (segments path) = path := by
  induction path with
  | nil => rfl
  | cons c rest ih =>
      simp only [segments]
      split
      · rename_i dot
        subst dot
        cases parts : segments rest with
        | nil => exact absurd parts (segments_ne_nil rest)
        | cons first others => simpa [joined, parts] using ih
      · cases parts : segments rest with
        | nil => exact absurd parts (segments_ne_nil rest)
        | cons first others =>
            rw [parts] at ih
            cases others with
            | nil => simpa [joined] using ih
            | cons second others => simpa [joined] using ih

/-- The field of an object or the element of an array that a key selects. -/
def select? (value : Value) (key : List Char) : Option Value :=
  match value with
  | .object entries => Entries.get? (String.ofList key) entries
  | .array items => (Text.Numeral.unsigned? key).bind (items[·]?)
  | .scalar _ => none

/-- Follows the parts of a path. -/
def follow (value : Value) : List (List Char) → Option Value
  | [] => some value
  | part :: rest =>
      if joined (part :: rest) = [] then some value
      else
        match select? value (joined (part :: rest)) with
        | some found => some found
        | none => if rest.isEmpty then none else (select? value part).bind (follow · rest)

/-- What a path names in a value. -/
def resolve? (value : Value) (path : String) : Option Value :=
  follow value (segments path.toList)

end JsonRules.Path
