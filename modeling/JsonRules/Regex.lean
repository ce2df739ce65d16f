/-
# JsonRules.Regex -- regular expressions and what they match

A text contains a match if some part of it is in the language of the expression.  The
matcher follows all parts at once: it keeps the set of places that a match may have
reached, as the number whose binary digits tell which places those are, and every
expression sends a set of places to the set of places one match further.

The sets of characters and the conditions on places are worked out for the text first,
each as the set of places where it holds (`Regex.locate`).
-/
import JsonRules.Regex.Edge

namespace JsonRules

set_option autoImplicit false

-- Powers are the built-in ones, also where Mathlib is imported.
attribute [local instance (high)] instPowNat

/-- A regular expression over tests `κ` of a character and tests `ε` of a place. -/
inductive Regex (κ ε : Type) where
  | empty
  | char (test : κ)
  | edge (test : ε)
  | seq (a b : Regex κ ε)
  | alt (a b : Regex κ ε)
  /-- A part that is kept when it matches. -/
  | group (a : Regex κ ε)
  /-- From `least` up to `most` matches in a row; without `most`, any number. -/
  | repeated (a : Regex κ ε) (least : Nat) (most : Option Nat)

namespace Regex

/-- Replaces the tests of an expression. -/
def map {κ ε κ' ε' : Type} (f : κ → κ') (g : ε → ε') : Regex κ ε → Regex κ' ε'
  | empty => empty
  | char test => char (f test)
  | edge test => edge (g test)
  | seq a b => seq (a.map f g) (b.map f g)
  | alt a b => alt (a.map f g) (b.map f g)
  | group a => group (a.map f g)
  | repeated a least most => repeated (a.map f g) least most

/-- A set of places of a text: place `n` is in it if the binary digit `n` is one. -/
abbrev Places := Nat

namespace Places

/-- The places whose digits are given, the first place first. -/
def ofList : List Bool → Places
  | [] => 0
  | here :: rest => 2 * ofList rest + here.toNat

/-- The places up to and with `last`. -/
def upTo (last : Nat) : Places := 2 ^ (last + 1) - 1

/-- Takes a step `count` times, or until it changes nothing. -/
def iterate (step : Places → Places) : (count : Nat) → Places → Places
  | 0, places => places
  | count + 1, places =>
      let further := step places
      if further = places then places else iterate step count further

end Places

/-- The places of a text in front of a character of the set. -/
def charPlaces (text : List Char) (set : CharSet) : Places :=
  .ofList (text.map set.contains)

/-- For the place in front of each character and for the one at the end, whether a condition holds
there; `before` is the character in front of the text. -/
def edgeDigits (edge : Edge) (before : Option Char) : List Char → List Bool
  | [] => [edge.holds before none]
  | c :: rest => edge.holds before (some c) :: edgeDigits edge (some c) rest

/-- The places of a text where a condition holds. -/
def edgePlaces (text : List Char) (edge : Edge) : Places := .ofList (edgeDigits edge none text)

/-- Works out the tests of an expression for a text. -/
def locate (text : List Char) (regex : Regex CharSet Edge) : Regex Places Places :=
  regex.map (charPlaces text) (edgePlaces text)

/-- The places where a match ends that starts at one of `places`; `size` is the length of the
text. -/
def step (size : Nat) : Regex Places Places → Places → Places
  | empty, places => places
  | char test, places => (places &&& test) <<< 1
  | edge test, places => places &&& test
  | seq a b, places => step size b (step size a places)
  | alt a b, places => step size a places ||| step size b places
  | group a, places => step size a places
  | repeated a least most, places =>
      let further := match most with
        | some most => most - least
        | none => size + 1
      Places.iterate (fun reached => reached ||| step size a reached) further
        (Places.iterate (step size a) least places)

/-- Some part of the text is in the language of the expression. -/
def isMatch (regex : Regex CharSet Edge) (text : String) : Bool :=
  let cs := text.toList
  step cs.length (regex.locate cs) (.upTo cs.length) != 0

end Regex

end JsonRules
