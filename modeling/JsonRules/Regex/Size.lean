/-
# JsonRules.Regex.Size -- how large the automaton of an expression is

An expression can ask for a lot of work in few characters, since counted repetitions
multiply.  What it asks for is measured by the automata that would read the bytes of a
text for it, once from the front and once from the back: every state has a size, and so
have the links of a choice and the byte spans of a state that looks at a byte.  Repeating
a part repeats its states, so the sizes add up and multiply along the expression
(`Regex.measure`), and an expression that is too large is refused (`Regex.isTooLarge`).
-/
import JsonRules.Regex
import JsonRules.Regex.Utf8

namespace JsonRules.Regex

set_option autoImplicit false

-- Sums start at the built-in zero, also where Mathlib is imported.
attribute [local instance (high)] Zero.ofOfNat0

open Unicode

/-! ## The spans of a set of characters -/

namespace CharSet

/-- The code points that differ from their folding, and those foldings. -/
def casedCodes : List Nat :=
  Folding.table.flatMap fun run => (List.range run.count).flatMap fun k =>
    let n := run.first + k * run.step
    [n, ((n : Int) + run.distance).toNat]

/-- The letters from `a` to `z` and from `A` to `Z`. -/
def asciiCasedCodes : List Nat :=
  (List.range 26).flatMap fun k => ['A'.toNat + k, 'a'.toNat + k]

/-- The spans of the characters that are used with a script. -/
def usedWithSpans (script : Script) : Spans :=
  let listed : List Span := Script.extensionRuns.map fun run => ⟨run.1, run.2.1⟩
  let wanted := Script.extensionRuns.filter fun run => run.2.2.contains script.code
  ((Script.table.spans (· == script)).inter (Spans.ofSorted listed).complement).union
    (.ofSorted (wanted.map fun run => ⟨run.1, run.2.1⟩))

/-- The spans of a set. -/
def spans : CharSet → Spans
  | range first last => if first ≤ last then [⟨first.toNat, last.toNat⟩] else []
  | property having => having.spans
  | category categories => Category.table.spans categories.contains
  | script named => Script.table.spans (· == named)
  | usedWith named => usedWithSpans named
  | union a b => a.spans.union b.spans
  | inter a b => a.spans.inter b.spans
  | complement a => a.spans.complement
  | anyCase a =>
      let spans := a.spans
      spans.union (.ofCodes ((casedCodes.filter spans.contains).flatMap Folding.variants))
  | anyAsciiCase a =>
      let spans := a.spans
      let cased := (asciiCasedCodes.filter spans.contains).map Char.ofNat
      spans.union (.ofCodes (cased.map fun c => (asciiVariant c).toNat))

end CharSet

/-! ## Sizes -/

/-- The end of a text from which it is read. -/
inductive Direction where
  | forward
  | backward
  deriving DecidableEq

/-- The size of some states with some links and byte spans. -/
def stateBytes (states : Nat) (links spans : Nat := 0) : Nat := 32 * states + 4 * links + 8 * spans

/-- The states that read one of the characters of a set.  From the front, places with the same
continuation share a state; from the back, every place has a state for each byte behind it. -/
def setBytes (direction : Direction) (spans : Spans) : Nat :=
  if spans.all (·.last < 0x80) then stateBytes 2 0 spans.length
  else
    let boxes := Utf8.boxes spans
    match direction with
    | .forward =>
        stateBytes 1 + ((Utf8.places 4 boxes).eraseDups.map fun groups =>
          stateBytes 1 0 groups.length).sum
    | .backward => stateBytes (2 + Utf8.weigh id 4 boxes) boxes.length

/-- The states that read one of some strings of bytes, which share their beginnings. -/
def wordsBytes (words : List (List Nat)) : Nat :=
  let boxes : List Utf8.Box := words.map fun word => word.map fun byte => ⟨byte, byte⟩
  let length := (words.map List.length).foldl max 0
  stateBytes 1 + Utf8.weigh (fun count => stateBytes 2 1 (if count = 1 then 0 else count)) length boxes

/-! ## Measures -/

/-- What an expression comes to where the size of its automaton is concerned. -/
inductive Shape where
  /-- A set of characters. -/
  | set (spans : Spans)
  /-- A choice of strings of bytes. -/
  | words (strings : List (List Nat))
  /-- Anything else, whose states have the size. -/
  | states (size : Nat)

namespace Shape

/-- The strings of bytes of a choice of such; a set is one if it has a single character. -/
def words? : Shape → Option (List (List Nat))
  | set [⟨first, last⟩] =>
      if first = last then some ((Utf8.spanBoxes ⟨first, last⟩).map fun box => box.map Span.first)
      else none
  | set _ => none
  | words strings => some strings
  | states _ => none

/-- The size of the states; an expression that says nothing has none. -/
def size (direction : Direction) (shape : Shape) : Nat :=
  match shape.words? with
  | some [word] => stateBytes word.length
  | some strings =>
      wordsBytes (if direction = .forward then strings else strings.map List.reverse)
  | none =>
      match shape with
      | set spans => setBytes direction spans
      | words _ => 0
      | states size => size

/-- The size of the states where there has to be one in any case. -/
def alone (direction : Direction) (shape : Shape) : Nat :=
  max (stateBytes 1) (shape.size direction)

/-- The shape of one expression behind another. -/
def andThen (direction : Direction) (a b : Shape) : Shape :=
  match a.words?, b.words? with
  | some [word], some [more] => words [word ++ more]
  | _, _ => states (a.size direction + b.size direction)

/-- The shape of a choice whose alternatives have the size `choice`. -/
def orElse (choice : Nat) (a b : Shape) : Shape :=
  match a, b with
  | set x, set y => set (x.union y)
  | a, b =>
      match a.words?, b.words? with
      | some x, some y =>
          if (x ++ y).all (!·.isEmpty) then words (x ++ y) else states (stateBytes 2 + choice)
      | _, _ => states (stateBytes 2 + choice)

end Shape

/-- What is known of the states of an expression. -/
structure Measure where
  shape : Shape
  /-- The size of its alternatives as a part of a larger choice, if it is a choice. -/
  choice : Option Nat := none
  /-- No match of it is empty. -/
  takesSome : Bool
  /-- Every match of it is empty. -/
  takesNone : Bool

namespace Measure

/-- The measure of a match of one expression behind a match of another. -/
def andThen (direction : Direction) (a b : Measure) : Measure where
  shape := a.shape.andThen direction b.shape
  takesSome := a.takesSome || b.takesSome
  takesNone := a.takesNone && b.takesNone

/-- The size of an expression as one or more alternatives of a larger choice. -/
def choiceBytes (direction : Direction) (measure : Measure) : Nat :=
  measure.choice.getD (stateBytes 0 1 + measure.shape.alone direction)

/-- The measure of a choice. -/
def orElse (direction : Direction) (a b : Measure) : Measure :=
  let choice := a.choiceBytes direction + b.choiceBytes direction
  ⟨a.shape.orElse choice b.shape, some choice, a.takesSome && b.takesSome,
    a.takesNone && b.takesNone⟩

/-- The measure of a group that is kept; only reading from the front marks its two ends. -/
def group (direction : Direction) (measure : Measure) : Measure :=
  let marks := if direction = .forward then 2 else 0
  { measure with
    shape := .states (measure.shape.alone direction + stateBytes marks)
    choice := none }

/-- The size of an expression that is repeated, where one match of it has the size `once`. -/
def repeatedBytes (once : Nat) (takesSome : Bool) : (least : Nat) → (most : Option Nat) → Nat
  | 0, none => once + (if takesSome then stateBytes 1 2 else stateBytes 3 4)
  | least, none => least * once + stateBytes 1 2
  | 0, some 0 => 0
  | 0, some 1 => once + stateBytes 2 2
  | least, some most =>
      if least = most then least * once
      else
        max (stateBytes 1) (least * once) + stateBytes 1 + (most - least) * (once + stateBytes 1 2)

/-- The measure of an expression that is repeated.  One that takes no character is not repeated more
than once. -/
def repeated (direction : Direction) (measure : Measure) (least : Nat) (most : Option Nat) :
    Measure :=
  let (least, most) :=
    if measure.takesNone then (min least 1, some (min (most.getD 1) 1)) else (least, most)
  if least = 1 && most = some 1 then measure
  else
    let once := measure.shape.alone direction
    { shape := .states (repeatedBytes once measure.takesSome least most)
      takesSome := measure.takesSome && least != 0
      takesNone := measure.takesNone || most = some 0 }

end Measure

/-- The measure of the states of an expression. -/
def measure (direction : Direction) : Regex CharSet Edge → Measure
  | empty => { shape := .words [[]], takesSome := false, takesNone := true }
  | char test => { shape := .set test.spans, takesSome := true, takesNone := false }
  | edge _ => { shape := .states (stateBytes 1), takesSome := false, takesNone := true }
  | seq a b => (a.measure direction).andThen direction (b.measure direction)
  | alt a b => (a.measure direction).orElse direction (b.measure direction)
  | group a => (a.measure direction).group direction
  | repeated a least most => (a.measure direction).repeated direction least most

/-- The size of the whole automaton: a loop over the bytes in front of a match, the expression as a
group, and a state for the match. -/
def size (direction : Direction) (regex : Regex CharSet Edge) : Nat :=
  stateBytes 3 2 1 + ((regex.measure direction).group direction).shape.size direction + stateBytes 1

/-- How large an automaton may be: ten times 2 ^ 20 bytes. -/
def maxSize : Nat := 10 * 0x100000

/-- One of the automata of the expression is too large. -/
def isTooLarge (regex : Regex CharSet Edge) : Bool :=
  maxSize < regex.size .forward || maxSize < regex.size .backward

end JsonRules.Regex
