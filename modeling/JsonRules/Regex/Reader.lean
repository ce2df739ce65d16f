/-
# JsonRules.Regex.Reader -- reading a pattern

A pattern is read from left to right, with the flags in force and the group names used so
far (`Cursor`).  Flags change what the characters behind them mean up to the end of the
group they stand in, so the sets of characters are made while reading.  A pattern that
follows no rule is refused without a reason: whoever reports it quotes the pattern.

The readers of groups and of bracketed sets call themselves; each call has taken at least
one character, so the length of the pattern bounds them.
-/
import JsonRules.Regex.Size
import JsonRules.Text.Blank
import JsonRules.Unicode.Recent

namespace JsonRules.Regex

set_option autoImplicit false

namespace Reader

/-! ## Flags and the cursor -/

/-- The flags in force. -/
structure Flags where
  ignoreCase : Bool := false
  multiLine : Bool := false
  dotMatchesNewline : Bool := false
  unicode : Bool := true
  carriageReturn : Bool := false
  ignoreSpace : Bool := false

/-- Sets the flag of a letter; whether repetitions are greedy (`U`) changes no match. -/
def Flags.set? (flags : Flags) (letter : Char) (value : Bool) : Option Flags :=
  match letter with
  | 'i' => some { flags with ignoreCase := value }
  | 'm' => some { flags with multiLine := value }
  | 's' => some { flags with dotMatchesNewline := value }
  | 'u' => some { flags with unicode := value }
  | 'R' => some { flags with carriageReturn := value }
  | 'x' => some { flags with ignoreSpace := value }
  | 'U' => some flags
  | _ => none

/-- What is left of the pattern, the flags in force, and the names of the groups so far. -/
structure Cursor where
  rest : List Char
  flags : Flags
  names : List (List Char)

abbrev Reading := StateT Cursor Option

def fail {α : Type} : Reading α := fun _ => none

def rest : Reading (List Char) := return (← get).rest

def flags : Reading Flags := return (← get).flags

def setRest (cs : List Char) : Reading Unit := modify fun cursor => { cursor with rest := cs }

def setFlags (flags : Flags) : Reading Unit := modify fun cursor => { cursor with flags }

/-- The next character, which is not taken. -/
def peek : Reading Char := do
  match ← rest with
  | [] => fail
  | c :: _ => return c

/-- What is left behind blanks and comments; a comment runs from `#` to the end of its line. -/
def skipIgnored (inComment : Bool) : List Char → List Char
  | [] => []
  | c :: cs =>
      if inComment then skipIgnored (c != '\n') cs
      else if Text.isBlank c then skipIgnored false cs
      else if c = '#' then skipIgnored true cs
      else c :: cs

/-- Skips blanks and comments where the flags say that they mean nothing. -/
def skipSpace : Reading Unit := do
  if (← flags).ignoreSpace then setRest (skipIgnored false (← rest))

/-- Takes one character. -/
def skip : Reading Unit := do setRest ((← rest).drop 1)

/-- Takes one character and what means nothing behind it. -/
def advance : Reading Unit := do
  skip
  skipSpace

/-- Takes the given characters if they are next. -/
def accept (cs : List Char) : Reading Bool := do
  if cs.isPrefixOf (← rest) then
    setRest ((← rest).drop cs.length)
    return true
  return false

/-- Takes the given character, which must be next. -/
def require (c : Char) : Reading Unit := do
  if (← peek) = c then skip else fail

/-- Takes the longest run of characters that satisfy `p`. -/
def collect (p : Char → Bool) : (fuel : Nat) → Reading (List Char)
  | 0 => return []
  | fuel + 1 => do
      match ← rest with
      | [] => return []
      | c :: _ =>
          if p c then
            advance
            return c :: (← collect p fuel)
          else return []

def collectAll (p : Char → Bool) : Reading (List Char) := do collect p (← rest).length

/-! ## Pieces -/

/-- A part of a pattern that has been read. -/
structure Piece where
  regex : Regex CharSet Edge
  /-- How many constructs are nested in it. -/
  height : Nat
  /-- It may be followed by a repetition. -/
  repeatable : Bool := true

namespace Piece

/-- Pieces that follow each other. -/
def concat : List Piece → Piece
  | [] => ⟨.empty, 0, true⟩
  | [piece] => piece
  | pieces =>
      ⟨pieces.foldr (fun piece regex => .seq piece.regex regex) .empty,
        1 + (pieces.map Piece.height).foldl max 0, true⟩

/-- Pieces one of which is to match. -/
def alternatives : List Piece → Piece
  | [] => ⟨.empty, 0, true⟩
  | [piece] => piece
  | first :: pieces =>
      ⟨pieces.foldl (fun regex piece => .alt regex piece.regex) first.regex,
        1 + ((first :: pieces).map Piece.height).foldl max 0, true⟩

/-- A piece between parentheses, which is kept or only held together. -/
def group (isKept : Bool) (piece : Piece) : Piece :=
  ⟨if isKept then .group piece.regex else piece.regex, piece.height + 1, true⟩

/-- A change of the flags, which matches nothing of its own. -/
def flagChange : Piece := ⟨.empty, 0, false⟩

def repeated (piece : Piece) (least : Nat) (most : Option Nat) : Piece :=
  ⟨.repeated piece.regex least most, piece.height + 1, true⟩

def set (set : CharSet) (height : Nat) : Piece := ⟨.char set, height, true⟩

def edge (condition : Edge) : Piece := ⟨.edge condition, 0, true⟩

end Piece

/-! ## Sets under flags -/

/-- Closes a set under differences of case if case is ignored. -/
def foldCase (flags : Flags) (set : CharSet) : CharSet :=
  if flags.ignoreCase then
    if flags.unicode then .anyCase set else .anyAsciiCase set
  else set

/-- The set holds a character that is a single byte without Unicode and no text by itself. -/
def hasLoneByte (set : CharSet) : Bool :=
  (List.range 0x80).any fun n => set.contains (Char.ofNat (0x80 + n))

/-- A set, complemented if `negated`; without Unicode it has to stay within ASCII. -/
def complete? (flags : Flags) (negated : Bool) (set : CharSet) : Option CharSet :=
  let set := if negated then .complement set else set
  if !flags.unicode && hasLoneByte set then none else some set

/-- The set of a class that a letter names; the capital letter names the complement. -/
def letterSet? (flags : Flags) (letter : Char) : Option CharSet :=
  complete? flags letter.isUpper <|
    match letter.toLower with
    | 'd' => if flags.unicode then .digit else .asciiDigit
    | 's' => if flags.unicode then .space else .asciiSpace
    | _ => if flags.unicode then .word else .asciiWord

/-- What words consist of. -/
def wordSet (flags : Flags) : CharSet := if flags.unicode then .word else .asciiWord

/-- The set that a literal character stands for, if it is one; a code of two hexadecimal digits is
a byte without Unicode, and then no text by itself above ASCII. -/
def literalSet? (flags : Flags) (c : Char) (isByte : Bool) : Option CharSet :=
  if !flags.unicode && isByte && 0x80 ≤ c.toNat then none
  else if !flags.unicode && 0x80 ≤ c.toNat then some (.single c)
  else some (foldCase flags (.single c))

/-! ## Numbers and escapes -/

/-- A number of at most 32 bits, with blanks allowed around it. -/
def decimal : Reading Nat := do
  setRest ((← rest).dropWhile Text.isBlank)
  let digits ← collectAll Char.isDigit
  let _ ← collectAll Text.isBlank
  let value := digits.foldl (fun value c => 10 * value + (c.toNat - '0'.toNat)) 0
  if digits.isEmpty || 0x100000000 ≤ value then fail
  return value

def isHexDigit (c : Char) : Bool :=
  c.isDigit || ('a' ≤ c && c ≤ 'f') || ('A' ≤ c && c ≤ 'F')

def hexValue (c : Char) : Nat :=
  if c.isDigit then c.toNat - '0'.toNat else c.toLower.toNat - 'a'.toNat + 10

/-- Takes a given number of hexadecimal digits. -/
def hexDigits : (count : Nat) → Reading (List Char)
  | 0 => return []
  | count + 1 => do
      let c ← peek
      if isHexDigit c then
        advance
        return c :: (← hexDigits count)
      else fail

/-- The character with a code, which must be one. -/
def ofCode (digits : List Char) : Reading Char := do
  let code := digits.foldl (fun value c => 16 * value + hexValue c) 0
  if h : code.isValidChar then return Char.ofNatAux code h else fail

/-- What a primitive part of a pattern stands for. -/
inductive Primitive where
  | literal (c : Char) (isByte : Bool)
  | set (set : CharSet)
  | edge (edge : Edge)

/-- The code of a character behind `x`, `u` or `U`, which is next. -/
def codeEscape (letter : Char) : Reading Primitive := do
  advance
  if (← peek) = '{' then
    advance
    let digits ← collectAll isHexDigit
    if digits.isEmpty || (← peek) != '}' then fail
    advance
    return .literal (← ofCode digits) false
  else
    let digits ← hexDigits (if letter = 'x' then 2 else if letter = 'u' then 4 else 8)
    return .literal (← ofCode digits) (letter = 'x')

/-- Cuts at the first place where `sign` stands. -/
def cutAt (sign : List Char) : List Char → Option (List Char × List Char)
  | [] => none
  | c :: cs =>
      if sign.isPrefixOf (c :: cs) then some ([], (c :: cs).drop sign.length)
      else (cutAt sign cs).map fun (before, behind) => (c :: before, behind)

/-- The set that a property in braces names, and whether the property is denied. -/
def propertySet? (name : List Char) : Option (CharSet × Bool) :=
  match cutAt ['!', '='] name with
  | some (property, value) => (CharSet.valued? property value).map (·, true)
  | none =>
      match (cutAt [':'] name).or (cutAt ['='] name) with
      | some (property, value) => (CharSet.valued? property value).map (·, false)
      | none => (CharSet.named? name).map (·, false)

/-- The property behind `p` or `P`, which is next. -/
def propertyEscape (letter : Char) : Reading Primitive := do
  advance
  let c ← peek
  let name ←
    if c = '{' then
      advance
      let name ← collectAll (· != '}')
      require '}'
      pure name
    else if c = '\\' then fail
    else do
      advance
      pure [c]
  let flags ← flags
  if !flags.unicode then fail
  match propertySet? name with
  | none => fail
  | some (set, denied) =>
      match complete? flags ((letter = 'P') != denied) (foldCase flags set) with
      | some set => return .set set
      | none => fail

/-- A word boundary with a name in braces behind `b`; without one, any word boundary. -/
def boundaryEscape : Reading Primitive := do
  let word := wordSet (← flags)
  let isNameChar (c : Char) : Bool := c.isAlpha || c = '-'
  let start ← rest
  match start with
  | '{' :: _ =>
      advance
      if isNameChar (← peek) then
        let name ← collectAll isNameChar
        require '}'
        match String.ofList name with
        | "start" => return .edge (.wordStart word)
        | "end" => return .edge (.wordEnd word)
        | "start-half" => return .edge (.wordStartHalf word)
        | "end-half" => return .edge (.wordEndHalf word)
        | _ => fail
      else
        setRest start
        return .edge (.wordBoundary word)
  | _ => return .edge (.wordBoundary word)

/-- Reads what is behind a backslash, which is next. -/
def escape : Reading Primitive := do
  skip
  let c ← peek
  match c with
  | 'x' | 'u' | 'U' => codeEscape c
  | 'p' | 'P' => propertyEscape c
  | 'd' | 's' | 'w' | 'D' | 'S' | 'W' =>
      skip
      match letterSet? (← flags) c with
      | some set => return .set set
      | none => fail
  | _ =>
      skip
      match c with
      | 'a' => return .literal '\x07' false
      | 'f' => return .literal '\x0c' false
      | 't' => return .literal '\t' false
      | 'n' => return .literal '\n' false
      | 'r' => return .literal '\r' false
      | 'v' => return .literal '\x0b' false
      | 'A' => return .edge .textStart
      | 'z' => return .edge .textEnd
      | 'b' => boundaryEscape
      | 'B' => return .edge (.notWordBoundary (wordSet (← flags)))
      | '<' => return .edge (.wordStart (wordSet (← flags)))
      | '>' => return .edge (.wordEnd (wordSet (← flags)))
      | _ =>
          if c.toNat < 0x80 && !c.isAlphanum then return .literal c false else fail

/-! ## Bracketed sets -/

/-- A part of a bracketed set that has been read. -/
structure SetPiece where
  set : CharSet
  height : Nat

namespace SetPiece

/-- Parts that stand side by side. -/
def union : List SetPiece → SetPiece
  | [] => ⟨.none, 0⟩
  | [piece] => piece
  | pieces => ⟨.unions (pieces.map SetPiece.set), 1 + (pieces.map SetPiece.height).foldl max 0⟩

end SetPiece

/-- What joins two parts of a bracketed set. -/
inductive SetOperator where
  | intersection
  | difference
  | symmetricDifference

def SetOperator.apply : SetOperator → CharSet → CharSet → CharSet
  | intersection, a, b => .inter a b
  | difference, a, b => .inter a (.complement b)
  | symmetricDifference, a, b => .union (.inter a (.complement b)) (.inter b (.complement a))

/-- Joins what stands before an operator with what stands behind it. -/
def join (flags : Flags) (pending : Option (SetOperator × SetPiece)) (right : SetPiece) : SetPiece :=
  match pending with
  | none => right
  | some (operator, left) =>
      ⟨operator.apply (foldCase flags left.set) (foldCase flags right.set),
        1 + max left.height right.height⟩

/-- A named set between `[:` and `:]`, if there is one at the front. -/
def posixSet? (flags : Flags) (cs : List Char) : Option (Option CharSet × List Char) :=
  match cs with
  | '[' :: ':' :: cs =>
      let (negated, cs) := match cs with
        | '^' :: cs => (true, cs)
        | cs => (false, cs)
      match cutAt [':'] cs with
      | some (name, ']' :: behind) =>
          (CharSet.posix? (String.ofList name)).map fun set =>
            (complete? flags negated (foldCase flags set), behind)
      | _ => none
  | _ => none

/-- The character behind the next one, past what means nothing. -/
def peekBehind (flags : Flags) (cs : List Char) : Option Char :=
  let behind := cs.drop 1
  if flags.ignoreSpace then
    match behind.dropWhile Text.isBlank with
    | '#' :: behind => (behind.dropWhile Text.isBlank).head?
    | behind => behind.head?
  else behind.head?

/-- A single character or a named set within brackets. -/
def setPrimitive : Reading Primitive := do
  let c ← peek
  if c = '\\' then escape
  else
    skip
    return .literal c false

/-- Without Unicode only the characters of ASCII may stand within brackets. -/
def checkByte (c : Char) : Reading Unit := do
  if !(← flags).unicode && 0x80 ≤ c.toNat then fail

/-- A character, a range of characters or a named set within brackets. -/
def setItem : Reading SetPiece := do
  let first ← setPrimitive
  skipSpace
  let c ← peek
  let behind := peekBehind (← flags) (← rest)
  if c != '-' || behind = some ']' || behind = some '-' then
    match first with
    | .literal c _ =>
        checkByte c
        return ⟨.single c, 0⟩
    | .set set => return ⟨set, 0⟩
    | .edge _ => fail
  else
    advance
    let _ ← peek
    match first, ← setPrimitive with
    | .literal first _, .literal last _ =>
        checkByte first
        checkByte last
        if first ≤ last then return ⟨.range first last, 0⟩ else fail
    | _, _ => fail

/-- Takes the hyphens at the front of a bracketed set, which stand for themselves. -/
def leadingHyphens : (fuel : Nat) → Reading (List SetPiece)
  | 0 => return []
  | fuel + 1 => do
      if (← peek) = '-' then
        advance
        return ⟨.single '-', 0⟩ :: (← leadingHyphens fuel)
      else return []

/-- What stands at the front of a bracketed set whose bracket is next: whether it is complemented,
and the characters that stand for themselves only there. -/
def openBracket : Reading (Bool × List SetPiece) := do
  advance
  let negated := (← peek) = '^'
  if negated then advance
  let hyphens ← leadingHyphens (← rest).length
  if hyphens.isEmpty && (← peek) = ']' then
    advance
    return (negated, [⟨.single ']', 0⟩])
  return (negated, hyphens)

/-- Completes a bracketed set. -/
def closeBracket (negated : Bool) (pending : Option (SetOperator × SetPiece))
    (pieces : List SetPiece) : Reading SetPiece := do
  skip
  let flags ← flags
  let piece := join flags pending (.union pieces)
  match complete? flags negated (foldCase flags piece.set) with
  | some set => return ⟨set, piece.height + 1⟩
  | none => fail

/-- Reads a bracketed set up to and with its closing bracket; `pending` is the operator that waits
for its right side, and `pieces` what has been read since. -/
def bracketBody : (fuel : Nat) → (negated : Bool) → Option (SetOperator × SetPiece) →
    List SetPiece → Reading SetPiece
  | 0, _, _, _ => fail
  | fuel + 1, negated, pending, pieces => do
      skipSpace
      let operator (operator : SetOperator) : Reading SetPiece := do
        setRest ((← rest).drop 2)
        bracketBody fuel negated (some (operator, join (← flags) pending (.union pieces))) []
      match ← rest with
      | [] => fail
      | '[' :: _ =>
          match posixSet? (← flags) (← rest) with
          | some (some set, behind) =>
              setRest behind
              bracketBody fuel negated pending (pieces ++ [⟨set, 0⟩])
          | some (none, _) => fail
          | none =>
              let (innerNegated, first) ← openBracket
              let inner ← bracketBody fuel innerNegated none first
              bracketBody fuel negated pending (pieces ++ [inner])
      | ']' :: _ => closeBracket negated pending pieces
      | '&' :: '&' :: _ => operator .intersection
      | '-' :: '-' :: _ => operator .difference
      | '~' :: '~' :: _ => operator .symmetricDifference
      | _ =>
          let piece ← setItem
          bracketBody fuel negated pending (pieces ++ [piece])

/-- Reads a bracketed set whose opening bracket is next. -/
def bracket : Reading Piece := do
  let fuel := (← rest).length
  let (negated, first) ← openBracket
  let piece ← bracketBody (fuel + 1) negated none first
  return .set piece.set piece.height

/-! ## Groups and repetitions -/

/-- The character is alphabetic. -/
def isLetter (c : Char) : Bool :=
  Unicode.Property.alphabetic.contains c || Unicode.Recent.letters.contains c

/-- The character is a number. -/
def isNumber (c : Char) : Bool :=
  [.nd, .nl, .no].contains (Unicode.Category.of c) || Unicode.Recent.numbers.contains c

/-- The character may stand in the name of a group. -/
def isNameChar (isFirst : Bool) (c : Char) : Bool :=
  c = '_' || isLetter c || (!isFirst && (c = '.' || c = '[' || c = ']' || isNumber c))

/-- Reads the name of a group, which no other group may have, and the sign behind it. -/
def groupName : Reading Unit := do
  match cutAt ['>'] (← rest) with
  | some (c :: name, behind) =>
      if isNameChar true c && name.all (isNameChar false) && !(← get).names.contains (c :: name) then
        modify fun cursor => { cursor with rest := behind, names := (c :: name) :: cursor.names }
      else fail
  | _ => fail

/-- Changes the flags as their letters say; those behind a hyphen are cleared. -/
def applyFlags : (value : Bool) → (seen : List Char) → List Char → Flags → Option Flags
  | _, seen, [], flags => if seen.head? = some '-' then none else some flags
  | value, seen, c :: cs, flags =>
      if seen.contains c then none
      else if c = '-' then applyFlags false (c :: seen) cs flags
      else (flags.set? c value).bind (applyFlags value (c :: seen) cs)

/-- What opens with a parenthesis. -/
inductive Opening where
  | group (flags : Flags) (isKept : Bool)
  | flagChange (flags : Flags)

/-- Reads what stands between an opening parenthesis, which is next, and the group itself. -/
def opening : Reading Opening := do
  advance
  let flags ← flags
  if (← accept ['?', '=']) || (← accept ['?', '!']) || (← accept ['?', '<', '='])
      || (← accept ['?', '<', '!']) then fail
  else if (← accept ['?', 'P', '<']) || (← accept ['?', '<']) then
    groupName
    return .group flags true
  else if ← accept ['?'] then
    let letters := (← rest).takeWhile fun c => c != ':' && c != ')'
    setRest ((← rest).drop letters.length)
    let c ← peek
    skip
    match applyFlags true [] letters flags with
    | none => fail
    | some changed =>
        if c = ':' then return .group changed false
        else if letters.isEmpty then fail
        else return .flagChange changed
  else return .group flags true

/-- Reads a repetition in braces, the first of which is next. -/
def counted : Reading (Nat × Option Nat) := do
  advance
  let least ← decimal
  let most ←
    if (← peek) = ',' then
      advance
      if (← peek) = '}' then pure none else some <$> decimal
    else pure (some least)
  require '}'
  skipSpace
  let _ ← accept ['?']
  match most with
  | some most => if most < least then fail else return (least, some most)
  | none => return (least, none)

/-- Reads a repetition that is a single sign, which is next. -/
def uncounted (c : Char) : Reading (Nat × Option Nat) := do
  skip
  let _ ← accept ['?']
  return if c = '?' then (0, some 1) else if c = '*' then (0, none) else (1, none)

/-- The piece of a primitive. -/
def primitivePiece : Primitive → Reading Piece
  | .literal c isByte => do
      match literalSet? (← flags) c isByte with
      | some set => return .set set 0
      | none => fail
  | .set set => return .set set 0
  | .edge condition => return .edge condition

/-- The set of a dot. -/
def dot : Reading Piece := do
  let flags ← flags
  if !flags.unicode then fail
  let excluded := if flags.carriageReturn then ['\r', '\n'] else ['\n']
  return .set (if flags.dotMatchesNewline then .all else .complement (.ofList excluded)) 0

/-- The anchor `^`, or `$` if `atEnd`. -/
def anchor (atEnd : Bool) : Reading Piece := do
  let flags ← flags
  return .edge <|
    if flags.multiLine then
      if flags.carriageReturn then (if atEnd then .returnLineEnd else .returnLineStart)
      else (if atEnd then .lineEnd else .lineStart)
    else (if atEnd then .textEnd else .textStart)

/-- Reads alternatives up to the end of their group, which is not taken.  `branches` are the
alternatives before this one and `pieces` what has been read of it, both last first. -/
def body : (fuel : Nat) → (branches pieces : List Piece) → Reading Piece
  | 0, _, _ => fail
  | fuel + 1, branches, pieces => do
      skipSpace
      let append (piece : Piece) : Reading Piece := body fuel branches (piece :: pieces)
      let repeatLast (count : Reading (Nat × Option Nat)) : Reading Piece := do
        match pieces with
        | piece :: before =>
            if piece.repeatable then
              let (least, most) ← count
              body fuel branches (piece.repeated least most :: before)
            else fail
        | [] => fail
      match ← rest with
      | [] | ')' :: _ =>
          return .alternatives (Piece.concat pieces.reverse :: branches).reverse
      | c :: cs =>
          match c with
          | '|' =>
              setRest cs
              body fuel (Piece.concat pieces.reverse :: branches) []
          | '(' =>
              let outer ← flags
              match ← opening with
              | .flagChange changed =>
                  setFlags changed
                  append .flagChange
              | .group changed isKept =>
                  setFlags changed
                  let inner ← body fuel [] []
                  setFlags outer
                  require ')'
                  append (inner.group isKept)
          | '[' => append (← bracket)
          | '?' | '*' | '+' => repeatLast (uncounted c)
          | '{' => repeatLast counted
          | '\\' => append (← primitivePiece (← escape))
          | '.' =>
              skip
              append (← dot)
          | '^' =>
              skip
              append (← anchor false)
          | '$' =>
              skip
              append (← anchor true)
          | c =>
              skip
              append (← primitivePiece (.literal c false))

/-- How many constructs may be nested in a pattern. -/
def maxHeight : Nat := 250

end Reader

/-- The expression that a pattern writes, if it is not too large. -/
def ofPattern? (pattern : String) : Option (Regex CharSet Edge) :=
  let cs := pattern.toList
  match (Reader.body (cs.length + 1) [] []).run ⟨cs, {}, []⟩ with
  | some (piece, cursor) =>
      if cursor.rest.isEmpty && piece.height ≤ Reader.maxHeight && !piece.regex.isTooLarge then
        some piece.regex
      else none
  | none => none

end JsonRules.Regex
