/-
# JsonRules.Regex.CharSet -- sets of characters

What a regular expression asks of a single character, as an expression over ranges and
the properties of the Unicode character database.  `CharSet.contains` decides it for a
character; closing a set under differences of case asks the same of the character's
variants.
-/
import JsonRules.Unicode.Age
import JsonRules.Unicode.Break
import JsonRules.Unicode.Category
import JsonRules.Unicode.Folding
import JsonRules.Unicode.Property
import JsonRules.Unicode.Script

namespace JsonRules

set_option autoImplicit false

namespace Regex

open Unicode

/-- A set of characters. -/
inductive CharSet where
  | range (first last : Char)
  /-- The characters that have a property. -/
  | property (runs : Runs)
  /-- The characters of some general categories. -/
  | category (categories : List Category)
  | script (script : Script)
  /-- The characters that are used with a script, whatever script they belong to. -/
  | usedWith (script : Script)
  | union (a b : CharSet)
  | inter (a b : CharSet)
  | complement (a : CharSet)
  /-- The characters that differ at most in case from one of the set. -/
  | anyCase (a : CharSet)
  /-- The same where only the letters from `a` to `z` have two cases. -/
  | anyAsciiCase (a : CharSet)

namespace CharSet

/-- The other case of a letter from `a` to `z`. -/
def asciiVariant (c : Char) : Char := if c.isUpper then c.toLower else c.toUpper

/-- The character is in the set. -/
def contains : CharSet → Char → Bool
  | range first last, c => first ≤ c && c ≤ last
  | property having, c => having.contains c
  | category categories, c => categories.contains (Category.of c)
  | script named, c => Script.of c == named
  | usedWith named, c => (Script.extensions c).contains named
  | union a b, c => a.contains c || b.contains c
  | inter a b, c => a.contains c && b.contains c
  | complement a, c => !a.contains c
  | anyCase a, c => (Folding.variants c.toNat).any fun n => a.contains (Char.ofNat n)
  | anyAsciiCase a, c => a.contains c || a.contains (asciiVariant c)

/-- The set of one character. -/
def single (c : Char) : CharSet := range c c

/-- Every character. -/
def all : CharSet := range '\x00' (Char.ofNat 0x10ffff)

/-- No character. -/
def none : CharSet := complement all

/-- The union of some sets. -/
def unions (sets : List CharSet) : CharSet := sets.foldr union none

/-- The characters of a list. -/
def ofList (cs : List Char) : CharSet := unions (cs.map single)

def ascii : CharSet := range '\x00' '\x7f'

/-- Decimal digits. -/
def digit : CharSet := category [.nd]

def asciiDigit : CharSet := range '0' '9'

/-- White space. -/
def space : CharSet := property Property.whiteSpace

def asciiSpace : CharSet := ofList ['\t', '\n', '\x0b', '\x0c', '\r', ' ']

/-- The characters of words: letters, marks, decimal digits, connecting punctuation and
joiners. -/
def word : CharSet :=
  unions [property Property.alphabetic, category [.mn, .mc, .me, .nd, .pc],
    property Property.joinControl]

def asciiWord : CharSet := unions [range 'a' 'z', range 'A' 'Z', asciiDigit, single '_']

/-- The sets that have a name between `[:` and `:]`. -/
def posix? (name : String) : Option CharSet :=
  let upper := range 'A' 'Z'
  let lower := range 'a' 'z'
  match name with
  | "alnum" => some (unions [asciiDigit, upper, lower])
  | "alpha" => some (union upper lower)
  | "ascii" => some ascii
  | "blank" => some (ofList ['\t', ' '])
  | "cntrl" => some (union (range '\x00' '\x1f') (single '\x7f'))
  | "digit" => some asciiDigit
  | "graph" => some (range '!' '~')
  | "lower" => some lower
  | "print" => some (range ' ' '~')
  | "punct" => some (unions [range '!' '/', range ':' '@', range '[' '\x60', range '\x7b' '~'])
  | "space" => some asciiSpace
  | "upper" => some upper
  | "word" => some asciiWord
  | "xdigit" => some (unions [asciiDigit, range 'A' 'F', range 'a' 'f'])
  | _ => Option.none

/-! ## Sets that are named by a property -/

/-- A name in small letters, without separators and without a leading `is`. -/
def normalize (name : List Char) : String :=
  let isPrefixed := (name.take 2).map Char.toLower = ['i', 's']
  let letters := ((if isPrefixed then name.drop 2 else name).filter fun c =>
    c != ' ' && c != '_' && c != '-' && c.toNat < 0x80).map Char.toLower
  if isPrefixed && letters = ['c'] then "isc" else String.ofList letters

/-- The general categories of a name, or the sets that are named like one. -/
def namedCategory? (name : String) : Option CharSet :=
  match name with
  | "any" => some all
  | "assigned" => some (complement (category [.cn]))
  | "ascii" => some ascii
  | name => (Category.named? name).map category

/-- The set of a single name: a property, a general category or a script. -/
def named? (name : List Char) : Option CharSet :=
  let name := normalize name
  let property? := if name = "cf" || name = "sc" || name = "lc" then Option.none else Property.named? name
  (property?.map property).or <| (namedCategory? name).or <| (Script.named? name).map script

/-- The set of the characters that have a value of a property. -/
def valued? (name value : List Char) : Option CharSet :=
  let value := normalize value
  match normalize name with
  | "gc" | "generalcategory" => namedCategory? value
  | "sc" | "script" => (Script.named? value).map script
  | "scx" | "scriptextensions" => (Script.named? value).map usedWith
  | "age" => (Age.named? value).map fun versions => unions (versions.map property)
  | "gcb" | "graphemeclusterbreak" => (Break.named? Break.grapheme value).map property
  | "wb" | "wordbreak" => (Break.named? Break.word value).map property
  | "sb" | "sentencebreak" => (Break.named? Break.sentence value).map property
  | _ => Option.none

end CharSet

end Regex

end JsonRules
