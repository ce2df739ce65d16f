/-
# JsonRules.Coercion -- bringing operands to a common kind

Each family of operators accepts certain kinds of values and decides how two operands of
different kinds meet.  Two integers meet as signed words if both fit and as unsigned ones
if neither is negative; an integer meets a double as the double nearest to it; a string
that is compared with a number is read as a number of the other's kind.
-/
import JsonRules.Fault
import JsonRules.Text.Numeral
import JsonRules.Value.Text

namespace JsonRules

set_option autoImplicit false

-- Powers are the built-in ones, also where Mathlib is imported.
attribute [local instance (high)] instPowNat

/-- Two integers of one kind. -/
inductive IntegerPair where
  | int (a b : Int64)
  | uint (a b : UInt64)
  deriving DecidableEq

/-- Two numbers of one kind. -/
inductive NumberPair where
  | integers (pair : IntegerPair)
  | doubles (a b : Float)
  deriving DecidableEq

/-- What a comparison compares. -/
inductive Comparands where
  | numbers (pair : NumberPair)
  | strings (a b : String)
  deriving DecidableEq

namespace Coercion

/-- The double nearest to a signed word. -/
def ofInt (n : Int64) : Float := Double.ofInt n.toInt

/-- The double nearest to an unsigned word. -/
def ofUInt (n : UInt64) : Float := Double.ofInt n.toNat

/-- A signed word beside an unsigned one that no signed word holds. -/
def unsigned (op : Operator) (n : Int64) : Except Fault UInt64 :=
  match Word.uint? n.toInt with
  | some w => .ok w
  | none => .error (.range op n)

/-- A signed and an unsigned integer, brought to one kind. -/
def mixed (op : Operator) (a : Int64) (b : UInt64) : Except Fault IntegerPair :=
  match Word.int? b.toNat with
  | some b => .ok (.int a b)
  | none => (unsigned op a).map (.uint · b)

/-- Exchanges the two integers. -/
def swap : IntegerPair → IntegerPair
  | .int a b => .int b a
  | .uint a b => .uint b a

/-- Two numbers brought to one kind; `none` where one of the values is no number. -/
def numbers? (op : Operator) : Value → Value → Except Fault (Option NumberPair)
  | .double a, .double b => .ok (some (.doubles a b))
  | .double a, .int b => .ok (some (.doubles a (ofInt b)))
  | .double a, .uint b => .ok (some (.doubles a (ofUInt b)))
  | .int a, .double b => .ok (some (.doubles (ofInt a) b))
  | .uint a, .double b => .ok (some (.doubles (ofUInt a) b))
  | .int a, .int b => .ok (some (.integers (.int a b)))
  | .uint a, .uint b => .ok (some (.integers (.uint a b)))
  | .int a, .uint b => (mixed op a b).map fun pair => some (.integers pair)
  | .uint a, .int b => (mixed op b a).map fun pair => some (.integers (swap pair))
  | _, _ => .ok none

/-- Neither operand's kind is at fault alone. -/
def mismatch (op : Operator) (a b : Value) : Fault := .type op [a.kind, b.kind]

/-- A result, or the fault that a text is no number of the wanted kind. -/
def orCoercion {α : Type} (text : String) (target : Kind) : Option α → Except Fault α
  | some x => .ok x
  | none => .error (.coercion text target)

/-- The signed integer that a text writes. -/
def parseInt (text : String) : Except Fault Int64 := orCoercion text .int (Text.Numeral.int? text)

/-- The unsigned integer that a text writes. -/
def parseUInt (text : String) : Except Fault UInt64 :=
  orCoercion text .uint (Text.Numeral.uint? text)

/-- The double that a text writes. -/
def parseDouble (text : String) : Except Fault Float :=
  orCoercion text .double (Text.Numeral.double? text)

/-- The number that a text writes, of the narrowest kind that holds it. -/
def parseNumber (text : String) : Except Fault Scalar :=
  orCoercion text .double (Text.Numeral.number? text)

/-- What a comparison of two values compares. -/
def comparands (op : Operator) (a b : Value) : Except Fault Comparands := do
  match ← numbers? op a b with
  | some pair => return .numbers pair
  | none =>
      match a, b with
      | .string a, .string b => return .strings a b
      | .string a, .int b => return .numbers (.integers (.int (← parseInt a) b))
      | .string a, .uint b => return .numbers (.integers (.uint (← parseUInt a) b))
      | .string a, .double b => return .numbers (.doubles (← parseDouble a) b)
      | .int a, .string b => return .numbers (.integers (.int a (← parseInt b)))
      | .uint a, .string b => return .numbers (.integers (.uint a (← parseUInt b)))
      | .double a, .string b => return .numbers (.doubles a (← parseDouble b))
      | a, b => throw (mismatch op a b)

/-- What arithmetic works on: two numbers, or `none` for two nulls. -/
def arithmetic (op : Operator) (a b : Value) : Except Fault (Option NumberPair) := do
  match a, b with
  | .null, .null => return none
  | a, b =>
      match ← numbers? op a b with
      | some pair => return some pair
      | none => throw (mismatch op a b)

/-- What a remainder is taken of: two integers. -/
def integers (op : Operator) (a b : Value) : Except Fault IntegerPair := do
  match ← numbers? op a b with
  | some (.integers pair) => return pair
  | _ => throw (mismatch op a b)

/-- An operand of arithmetic over many operands: a number or null stays, a string is read. -/
def toArithmetic (op : Operator) : Value → Except Fault Value
  | .null => .ok .null
  | .int n => .ok (.int n)
  | .uint n => .ok (.uint n)
  | .double x => .ok (.double x)
  | .string text => (parseNumber text).map .scalar
  | value => .error (.type op [value.kind])

/-- The plain text of an operand. -/
def toText (op : Operator) (value : Value) : Except Fault String :=
  match value.text? with
  | some text => .ok text
  | none => .error (.type op [value.kind])

/-- The truth of an operand. -/
def toTruth (op : Operator) (value : Value) : Except Fault Bool :=
  match value.truth? with
  | some truth => .ok truth
  | none => .error (.type op [value.kind])

/-- The elements of an operand that is to be an array; null has none. -/
def toElements (op : Operator) : Value → Except Fault (List Value)
  | .array items => .ok items
  | .null => .ok []
  | value => .error (.type op [value.kind])

/-- The signed word nearest to a whole number. -/
def clamp (n : Int) : Int64 := Int64.ofInt (max (-2 ^ (63 : Nat)) (min n (2 ^ (63 : Nat) - 1)))

/-- An operand that counts characters; null counts as zero, and so does a NaN. -/
def toCount (op : Operator) : Value → Except Fault Int64
  | .int n => .ok n
  | .uint n => .ok (clamp n.toNat)
  | .double x =>
      .ok <| match Double.truncate? x with
        | some n => clamp n
        | none =>
            if x.isNaN then 0
            else if Double.isNegative x then clamp (-2 ^ (63 : Nat)) else clamp (2 ^ (63 : Nat))
  | .string text => parseInt text
  | .null => .ok 0
  | value => .error (.type op [value.kind])

/-- Strict equality: two scalars of one kind that are equal. -/
def strictEq : Value → Value → Bool
  | .null, .null => true
  | .bool a, .bool b => a == b
  | .int a, .int b => a == b
  | .uint a, .uint b => a == b
  | .double a, .double b => a == b
  | .string a, .string b => a == b
  | _, _ => false

end Coercion

end JsonRules
