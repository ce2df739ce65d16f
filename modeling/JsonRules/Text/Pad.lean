/-
# JsonRules.Text.Pad -- columns of a table

A text shorter than its column is filled up with blanks; a longer one is not cut.
-/

namespace JsonRules.Text

set_option autoImplicit false

/-- The blanks that a text lacks to be as wide as a column. -/
def filling (width : Nat) (text : String) : String :=
  String.ofList (List.replicate (width - text.length) ' ')

/-- A text at the left of its column. -/
def padRight (width : Nat) (text : String) : String := text ++ filling width text

/-- A text at the right of its column. -/
def padLeft (width : Nat) (text : String) : String := filling width text ++ text

end JsonRules.Text
