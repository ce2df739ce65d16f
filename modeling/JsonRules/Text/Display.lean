/-
# JsonRules.Text.Display -- a text as it is shown in a message

A text that a message quotes is shown so that every character of it can be told: those
that would be invisible, change their neighbours or have no meaning are shown by their
code.
-/
import JsonRules.Text.Quote
import JsonRules.Unicode.Category
import JsonRules.Unicode.Property
import JsonRules.Unicode.Recent

namespace JsonRules.Text

set_option autoImplicit false

/-- The categories whose characters do not show. -/
def hiddenCategories : List Unicode.Category := [.cc, .cf, .cs, .co, .cn, .zl, .zp, .zs]

/-- The character attaches to the one before it.  The two halfwidth sound marks extend what stands
before them as well, but they are letters with a place of their own. -/
def isAttached (c : Char) : Bool :=
  (Unicode.Property.graphemeExtend.contains c && Unicode.Category.of c != .lm)
    || Unicode.Recent.extenders.contains c

/-- The character shows nothing: it is a control, a separator or unassigned, or is to be ignored where
it is not supported, as the letters are that only fill a place. -/
def isHidden (c : Char) : Bool :=
  Unicode.Property.defaultIgnorableCodePoint.contains c
    || (hiddenCategories.contains (Unicode.Category.of c)
      && !Unicode.Recent.characters.contains c)

/-- The character shows as itself: it is a blank, or it shows something and does not attach to the
one before it. -/
def isVisible (c : Char) : Bool := c = ' ' || !(isHidden c || isAttached c)

/-- What a character is shown as. -/
def displayChar (c : Char) : List Char :=
  match c with
  | '\x00' => ['\\', '0']
  | '\t' => ['\\', 't']
  | '\r' => ['\\', 'r']
  | '\n' => ['\\', 'n']
  | '"' => ['\\', '"']
  | '\\' => ['\\', '\\']
  | c =>
      if isVisible c then [c]
      else '\\' :: 'u' :: '{' :: (Nat.toDigits 16 c.toNat ++ ['}'])

/-- A text between quotes, for a message. -/
def display (text : String) : String := String.ofList (quote displayChar text)

end JsonRules.Text
