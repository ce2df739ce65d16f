/-
# JsonRules.CommandLine.Arguments -- words of a command line and what they give

A command takes at most one plain word, one option with a value and one flag, each at most
once.  A word that starts with a dash and has more behind it names options: by their letters
behind one dash, of which all but the last are flags, or by a word behind two.  The value
of an option is behind an equals sign, or right behind its letter, or it is the next word,
which then must not look like an option.  Behind a bare `--` every word is plain.
-/

namespace JsonRules.CommandLine

set_option autoImplicit false

/-- What an option or a flag is called. -/
structure Label where
  letter : Char
  word : String
  deriving DecidableEq

/-- What a command takes. -/
structure Signature where
  takesPlain : Bool
  option : Option Label
  flag : Option Label
  deriving DecidableEq

/-- What a command is given. -/
structure Given where
  plain : Option String := none
  option : Option String := none
  flag : Bool := false
  deriving DecidableEq

/-- What a word looks like. -/
inductive Shape where
  | plain
  | escape
  | letters (letters : List Char)
  | word (word : List Char) (value : Option (List Char))
  deriving DecidableEq

namespace Shape

/-- Cuts at the first equals sign. -/
def cut : List Char → List Char × Option (List Char)
  | [] => ([], none)
  | c :: rest =>
      if c = '=' then ([], some rest)
      else
        let (name, value) := cut rest
        (c :: name, value)

def of (text : String) : Shape :=
  match text.toList with
  | ['-', '-'] => .escape
  | '-' :: '-' :: rest =>
      let (name, value) := cut rest
      .word name value
  | '-' :: c :: rest => .letters (c :: rest)
  | _ => .plain

end Shape

namespace Given

/-- Takes a plain word. -/
def addPlain? (signature : Signature) (given : Given) (text : String) : Option Given :=
  if signature.takesPlain && given.plain.isNone then some { given with plain := some text }
  else none

/-- Takes the value of the option. -/
def addOption? (given : Given) (value : List Char) : Option Given :=
  if given.option.isNone then some { given with option := some (String.ofList value) } else none

/-- Takes the flag. -/
def addFlag? (given : Given) : Option Given :=
  if given.flag then none else some { given with flag := true }

/-- The value right behind a letter, which an equals sign may announce. -/
def attached : List Char → List Char
  | '=' :: value => value
  | value => value

/-- Takes letters; the second part of the result tells whether the value of the option is still to
come. -/
def addLetters? (signature : Signature) (given : Given) : List Char → Option (Given × Bool)
  | [] => some (given, false)
  | c :: rest =>
      if signature.flag.any (·.letter == c) then
        given.addFlag?.bind fun given => addLetters? signature given rest
      else if signature.option.any (·.letter == c) then
        if rest.isEmpty then some (given, true)
        else (given.addOption? (attached rest)).map (·, false)
      else none

/-- Takes a word behind two dashes, with the same result. -/
def addWord? (signature : Signature) (given : Given) (word : List Char) (value : Option (List Char)) :
    Option (Given × Bool) :=
  if signature.flag.any (·.word.toList == word) then
    if value.isNone then given.addFlag?.map (·, false) else none
  else if signature.option.any (·.word.toList == word) then
    match value with
    | none => some (given, true)
    | some value => (given.addOption? value).map (·, false)
  else none

/-- Takes words, of which the first is the value of the option if one is still to come. -/
def addAll? (signature : Signature) (given : Given) : (awaited : Bool) → List String → Option Given
  | awaited, [] => if awaited then none else some given
  | true, text :: rest =>
      match Shape.of text with
      | .plain => (given.addOption? text.toList).bind fun given => addAll? signature given false rest
      | _ => none
  | false, text :: rest =>
      match Shape.of text with
      | .plain => (given.addPlain? signature text).bind fun given =>
          addAll? signature given false rest
      | .escape => rest.foldlM (addPlain? signature) given
      | .letters letters => (given.addLetters? signature letters).bind fun (given, awaited) =>
          addAll? signature given awaited rest
      | .word word value => (given.addWord? signature word value).bind fun (given, awaited) =>
          addAll? signature given awaited rest

end Given

/-- What words give to a command that takes all of them. -/
def Signature.read? (signature : Signature) (words : List String) : Option Given :=
  Given.addAll? signature {} false words

end JsonRules.CommandLine
