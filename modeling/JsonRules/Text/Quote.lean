/-
# JsonRules.Text.Quote -- text between quotes

A quoted text is written one character at a time, between two quotes.  The formats
that quote differ only in what they write for a single character.
-/

namespace JsonRules.Text

set_option autoImplicit false

/-- A text between quotes, each character written by `escape`. -/
def quote (escape : Char → List Char) (text : String) : List Char :=
  '"' :: (text.toList.flatMap escape ++ ['"'])

/-- A backslash, `u`, and four lower-case hexadecimal digits. -/
def fourDigitEscape (c : Char) : List Char :=
  let digits := Nat.toDigits 16 c.toNat
  '\\' :: 'u' :: (List.replicate (4 - digits.length) '0' ++ digits)

end JsonRules.Text
