/-
# JsonRules.Regex.Edge -- conditions on a place between characters

Anchors and word boundaries ask something of the character before a place and of the one
behind it, and of nothing else.
-/
import JsonRules.Regex.CharSet

namespace JsonRules.Regex

set_option autoImplicit false

/-- What a place between two characters has to be. -/
inductive Edge where
  | textStart
  | textEnd
  /-- Lines end at a line feed. -/
  | lineStart
  | lineEnd
  /-- Lines end at a carriage return, a line feed, or both together. -/
  | returnLineStart
  | returnLineEnd
  | wordBoundary (word : CharSet)
  | notWordBoundary (word : CharSet)
  | wordStart (word : CharSet)
  | wordEnd (word : CharSet)
  | wordStartHalf (word : CharSet)
  | wordEndHalf (word : CharSet)

namespace Edge

/-- A neighbour of the place is there and belongs to a set. -/
def isIn (set : CharSet) (neighbour : Option Char) : Bool := neighbour.any set.contains

/-- The condition holds between two neighbours. -/
def holds (before behind : Option Char) : Edge → Bool
  | textStart => before.isNone
  | textEnd => behind.isNone
  | lineStart => before.isNone || before = some '\n'
  | lineEnd => behind.isNone || behind = some '\n'
  | returnLineStart =>
      before.isNone || before = some '\n' || (before = some '\r' && behind != some '\n')
  | returnLineEnd =>
      behind.isNone || behind = some '\r' || (behind = some '\n' && before != some '\r')
  | wordBoundary word => isIn word before != isIn word behind
  | notWordBoundary word => isIn word before == isIn word behind
  | wordStart word => !isIn word before && isIn word behind
  | wordEnd word => isIn word before && !isIn word behind
  | wordStartHalf word => !isIn word before
  | wordEndHalf word => !isIn word behind

end Edge

end JsonRules.Regex
