/-
# JsonRules.Text.Blank -- white space, and text cut at it

White space is what Unicode calls so: the controls from tab to carriage return, the next
line control, and the separators.  Every character that Lean counts as white space is
among them (`isBlank_of_isWhitespace`).
-/

namespace JsonRules.Text

set_option autoImplicit false

/-- The character is white space. -/
def isBlank (c : Char) : Bool :=
  let n := c.toNat
  (0x9 ≤ n && n ≤ 0xd) || n == 0x20 || n == 0x85 || n == 0xa0 || n == 0x1680
    || (0x2000 ≤ n && n ≤ 0x200a) || n == 0x2028 || n == 0x2029 || n == 0x202f || n == 0x205f
    || n == 0x3000

theorem isBlank_of_isWhitespace {c : Char} (white : c.isWhitespace = true) :
    isBlank c = true := by
  simp only [Char.isWhitespace, Bool.or_eq_true, decide_eq_true_eq] at white
  rcases white with ((rfl | rfl) | rfl) | rfl <;> decide

/-- The text without the white space in front of it. -/
def trimLeft (s : List Char) : List Char := s.dropWhile isBlank

/-- The text without the white space at its two ends. -/
def trim (s : List Char) : List Char := (trimLeft (trimLeft s).reverse).reverse

end JsonRules.Text
