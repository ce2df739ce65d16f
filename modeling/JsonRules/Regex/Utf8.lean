/-
# JsonRules.Regex.Utf8 -- sets of characters as strings of bytes

UTF-8 writes a character as a leading byte and up to three bytes with six binary digits
each.  A set of characters is then the union of boxes: a span of leading bytes, a span of
second bytes, and so on (`Utf8.boxes`).  What may follow a place within the boxes is again
a list of boxes, shorter by one byte; `Utf8.places` lists those.
-/
import JsonRules.Unicode.Spans

namespace JsonRules.Regex.Utf8

set_option autoImplicit false

-- Sums start at the built-in zero, also where Mathlib is imported.
attribute [local instance (high)] Zero.ofOfNat0

open Unicode

/-- The strings of bytes whose bytes lie in the spans, each in its own. -/
abbrev Box := List Span

/-- The numbers from `first` to `last` by their digits in base 64, with `count` digits behind the
leading one. -/
def digitBoxes : (count : Nat) → (first last : Nat) → List Box
  | 0, first, last => [[⟨first, last⟩]]
  | count + 1, first, last =>
      let unit := 64 ^ (count + 1)
      let low := first / unit
      let high := last / unit
      if low = high then
        (digitBoxes count (first % unit) (last % unit)).map (⟨low, low⟩ :: ·)
      else
        let startsWhole := first % unit = 0
        let endsWhole := last % unit = unit - 1
        let head :=
          if startsWhole then []
          else (digitBoxes count (first % unit) (unit - 1)).map (⟨low, low⟩ :: ·)
        let tail :=
          if endsWhole then []
          else (digitBoxes count 0 (last % unit)).map (⟨high, high⟩ :: ·)
        let low := if startsWhole then low else low + 1
        let high := if endsWhole then high else high - 1
        let middle :=
          if low ≤ high then [⟨low, high⟩ :: List.replicate (count + 1) ⟨0, 63⟩] else []
        head ++ middle ++ tail

/-- A span moved up. -/
def shift (distance : Nat) (span : Span) : Span := ⟨span.first + distance, span.last + distance⟩

/-- The bytes that write digits in base 64; `mark` is the leading byte for zero. -/
def markBytes (mark : Nat) : Box → Box
  | [] => []
  | leading :: rest => shift mark leading :: rest.map (shift 0x80)

/-- The forms of a character: how many bytes follow the leading one, which code points have the
form, and the leading byte for zero.  Surrogates have none. -/
def forms : List (Nat × Span × Nat) :=
  [(0, ⟨0, 0x7f⟩, 0), (1, ⟨0x80, 0x7ff⟩, 0xc0), (2, ⟨0x800, 0xd7ff⟩, 0xe0),
   (2, ⟨0xe000, 0xffff⟩, 0xe0), (3, ⟨0x10000, Spans.lastCode⟩, 0xf0)]

/-- The boxes of a span of code points. -/
def spanBoxes (span : Span) : List Box :=
  forms.flatMap fun (count, limits, mark) =>
    let first := max span.first limits.first
    let last := min span.last limits.last
    if first ≤ last then (digitBoxes count first last).map (markBytes mark) else []

/-- The boxes of a set of code points. -/
def boxes (spans : Spans) : List Box := spans.flatMap spanBoxes

/-- Adds a box that starts with the span `leading` to boxes that are grouped by their first span. -/
def insert (leading : Span) (rest : Box) : List (Span × List Box) → List (Span × List Box)
  | [] => [(leading, [rest])]
  | (other, rests) :: groups =>
      if other = leading then (leading, rest :: rests) :: groups
      else (other, rests) :: insert leading rest groups

/-- Boxes grouped by their first span, each group with what may follow it. -/
def branches : List Box → List (Span × List Box)
  | [] => []
  | [] :: boxes => branches boxes
  | (leading :: rest) :: boxes => insert leading rest (branches boxes)

/-- The places within boxes of at most `length` bytes where a byte is still to come: the place in
front, and those behind each beginning.  A place is told by what may follow it. -/
def places : (length : Nat) → List Box → List (List (Span × List Box))
  | 0, _ => []
  | length + 1, boxes =>
      let groups := branches boxes
      if groups.isEmpty then []
      else groups :: groups.flatMap fun group => places length group.2

/-- The sum over those places of a weight that the number of first spans at a place has. -/
def weigh (weight : Nat → Nat) : (length : Nat) → List Box → Nat
  | 0, _ => 0
  | length + 1, boxes =>
      let groups := branches boxes
      if groups.isEmpty then 0
      else weight groups.length + (groups.map fun group => weigh weight length group.2).sum

end JsonRules.Regex.Utf8
