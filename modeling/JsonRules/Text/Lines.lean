/-
# JsonRules.Text.Lines -- the lines of a text

A line ends at a line feed, and a carriage return right before the line feed belongs to
the line break.  What is behind the last line feed is a line unless it is empty, and a
carriage return at its end belongs to it.
-/
import JsonRules.Text.Blank

namespace JsonRules.Text

set_option autoImplicit false

/-- The lines of a text of which the first has begun with the characters of `current`, last
first. -/
def splitLines : List Char → List Char → List (List Char)
  | current, [] => if current.isEmpty then [] else [current.reverse]
  | current, '\n' :: rest =>
      (match current with
        | '\r' :: before => before.reverse
        | _ => current.reverse) :: splitLines [] rest
  | current, c :: rest => splitLines (c :: current) rest

/-- The lines of a text, without their line breaks. -/
def lines (text : String) : List String := (splitLines [] text.toList).map String.ofList

/-- The text holds nothing but white space. -/
def isBlankText (text : String) : Bool := text.toList.all isBlank

end JsonRules.Text
