/-
# JsonRules.Doc.Printer -- writing a document

Brackets, commas and colons are the same for every kind of scalar, and the compact and
the indented form differ only in what stands at a line break and behind a colon.
Empty arrays and objects stay closed in both.
-/
import JsonRules.Doc

namespace JsonRules.Doc

set_option autoImplicit false

/-- How the leaves of a document are spelled. -/
structure Spelling (σ : Type) where
  scalar : σ → List Char
  key : String → List Char

/-- What is written between the parts of a document. -/
structure Spacing where
  /-- In front of an element or a closing bracket, at a depth of indentation. -/
  lineBreak : Nat → List Char
  colon : List Char

namespace Spacing

/-- No space at all. -/
def compact : Spacing := ⟨fun _ => [], [':']⟩

/-- One element a line, indented by two spaces a level. -/
def indented : Spacing :=
  ⟨fun depth => '\n' :: List.replicate (2 * depth) ' ', [':', ' ']⟩

end Spacing

variable {σ : Type}

mutual

/-- Writes a document that stands at a depth of indentation. -/
def write (spelling : Spelling σ) (spacing : Spacing) (depth : Nat) : Doc σ → List Char
  | .scalar value => spelling.scalar value
  | .array [] => ['[', ']']
  | .array (item :: rest) =>
      '[' :: (spacing.lineBreak (depth + 1) ++ item.write spelling spacing (depth + 1)
        ++ writeItems spelling spacing (depth + 1) rest ++ spacing.lineBreak depth ++ [']'])
  | .object [] => ['{', '}']
  | .object ((key, item) :: rest) =>
      '{' :: (spacing.lineBreak (depth + 1) ++ spelling.key key ++ spacing.colon
        ++ item.write spelling spacing (depth + 1)
        ++ writeEntries spelling spacing (depth + 1) rest ++ spacing.lineBreak depth ++ ['}'])

/-- Writes the elements behind the first, each with the comma before it. -/
def writeItems (spelling : Spelling σ) (spacing : Spacing) (depth : Nat) :
    List (Doc σ) → List Char
  | [] => []
  | item :: rest =>
      ',' :: (spacing.lineBreak depth ++ item.write spelling spacing depth
        ++ writeItems spelling spacing depth rest)

/-- Writes the entries behind the first, each with the comma before it. -/
def writeEntries (spelling : Spelling σ) (spacing : Spacing) (depth : Nat) :
    List (String × Doc σ) → List Char
  | [] => []
  | (key, item) :: rest =>
      ',' :: (spacing.lineBreak depth ++ spelling.key key ++ spacing.colon
        ++ item.write spelling spacing depth
        ++ writeEntries spelling spacing depth rest)

end

end JsonRules.Doc
