/-
# JsonRules.Value -- the values that rules work on

Values keep three kinds of number apart: signed integers, unsigned integers and doubles.
A number of a JSON text becomes an unsigned integer only when no signed word holds it, so
two integers that come from texts are equal exactly if they are the same number
(`Scalar.IsCanonical`).  Going back to JSON keeps everything except doubles without a JSON
spelling, which become null; a small unsigned integer comes back signed (`Scalar.ofJson_toJson`).
-/
import JsonRules.Json
import JsonRules.Word

namespace JsonRules

set_option autoImplicit false

-- Powers are the built-in ones, also where Mathlib is imported.
attribute [local instance (high)] instPowNat

/-- What a value holds besides arrays and objects. -/
inductive Scalar where
  | null
  | bool (value : Bool)
  | int (value : Int64)
  | uint (value : UInt64)
  | double (value : Float)
  | string (value : String)
  deriving DecidableEq

instance : Inhabited Scalar := ⟨.null⟩

/-- A value that a rule takes or gives. -/
abbrev Value := Doc Scalar

/-- The kind of a value, which decides what an operator may do with it. -/
inductive Kind where
  | null
  | bool
  | int
  | uint
  | double
  | string
  | array
  | object
  deriving DecidableEq, Repr

def Kind.name : Kind → String
  | null => "null"
  | bool => "bool"
  | int => "int"
  | uint => "uint"
  | double => "double"
  | string => "string"
  | array => "array"
  | object => "object"

namespace Scalar

def kind : Scalar → Kind
  | null => .null
  | bool _ => .bool
  | int _ => .int
  | uint _ => .uint
  | double _ => .double
  | string _ => .string

/-- Numbers are true unless zero, strings unless empty; null is false. -/
def truth : Scalar → Bool
  | null => false
  | bool value => value
  | int value => value != 0
  | uint value => value != 0
  | double value => !(value == 0)
  | string value => !value.isEmpty

/-- An unsigned integer that no signed word holds, or any other scalar. -/
def IsCanonical : Scalar → Prop
  | uint value => 2 ^ (63 : Nat) ≤ value.toNat
  | _ => True

/-- An integer as a scalar, signed if a signed word holds it, else unsigned. -/
def ofInt? (n : Int) : Option Scalar :=
  match Word.int? n with
  | some w => some (int w)
  | none => (Word.uint? n).map uint

/-- An unsigned word as a scalar: signed if it fits. -/
def ofUInt (w : UInt64) : Scalar := (Word.int? w.toNat).elim (uint w) int

/-- The integer a scalar holds. -/
def integer? : Scalar → Option Int
  | int value => some value.toInt
  | uint value => some value.toNat
  | _ => none

/-! ## To and from JSON -/

def ofNumber : Json.Number → Scalar
  | .integer value _ =>
      if value < 2 ^ (63 : Nat) then int (Int64.ofInt value) else uint (UInt64.ofNat value.toNat)
  | .double value _ => double value

def ofJson : Json.Scalar → Scalar
  | .null => null
  | .bool value => bool value
  | .number value => ofNumber value
  | .string value => string value

def toJson : Scalar → Json.Scalar
  | null => .null
  | bool value => .bool value
  | int value => .number (.integer value.toInt (Word.inRange_toInt value))
  | uint value => .number (.integer value.toNat (Word.inRange_toNat value))
  | double value =>
      match Json.Number.ofFloat? value with
      | some number => .number number
      | none => .null
  | string value => .string value

/-- A scalar of a JSON text is written as it was read. -/
theorem toJson_ofJson (scalar : Json.Scalar) : (ofJson scalar).toJson = scalar := by
  cases scalar with
  | null | bool | string => rfl
  | number value =>
      cases value with
      | double value finite =>
          simp only [ofJson, ofNumber, toJson, Json.Number.ofFloat?, dif_pos finite]
      | integer value inRange =>
          simp only [ofJson, ofNumber]
          split
          · rename_i small
            simp only [toJson, Int64.toInt_ofInt_of_le inRange.1 small]
          · have small : value.toNat < 2 ^ 64 := by omega
            have same : ((UInt64.ofNat value.toNat).toNat : Int) = value := by
              rw [UInt64.toNat_ofNat', Nat.mod_eq_of_lt small]
              omega
            simp only [toJson, same]

/-- What is left of a scalar on the way to JSON and back: a double that is not finite has become
null, and an unsigned integer that fits a signed word has become signed. -/
def settled : Scalar → Scalar
  | double value => if value.isFinite then double value else null
  | uint value => ofUInt value
  | other => other

theorem toJson_finite {value : Float} (finite : value.isFinite = true) :
    toJson (double value) = .number (.double value finite) := by
  rw [toJson, Json.Number.ofFloat?, dif_pos finite]

theorem toJson_notFinite {value : Float} (infinite : ¬ value.isFinite = true) :
    toJson (double value) = .null := by
  rw [toJson, Json.Number.ofFloat?, dif_neg infinite]

/-- What a scalar is written as is read as the scalar, settled. -/
theorem ofJson_toJson (scalar : Scalar) : ofJson scalar.toJson = scalar.settled := by
  cases scalar with
  | null | bool | string => rfl
  | int value =>
      rw [toJson, ofJson, ofNumber, if_pos (Word.toInt_bounds value).2, Int64.ofInt_toInt]
      rfl
  | uint value =>
      have least : -2 ^ 63 ≤ (value.toNat : Int) := by omega
      rw [settled, ofUInt, Word.int?, toJson, ofJson, ofNumber]
      by_cases signed : (value.toNat : Int) < 2 ^ 63
      · rw [if_pos signed, if_pos ⟨least, signed⟩, Option.elim_some]
      · rw [if_neg signed, if_neg fun fits => signed fits.2, Option.elim_none, Int.toNat_natCast,
          UInt64.ofNat_toNat]
  | double value =>
      rw [settled]
      by_cases finite : value.isFinite = true
      · rw [toJson_finite finite, if_pos finite]
        rfl
      · rw [toJson_notFinite finite, if_neg finite]
        rfl

end Scalar

namespace Value

@[match_pattern] abbrev null : Value := .scalar .null

@[match_pattern] abbrev bool (value : Bool) : Value := .scalar (.bool value)

@[match_pattern] abbrev int (value : Int64) : Value := .scalar (.int value)

@[match_pattern] abbrev uint (value : UInt64) : Value := .scalar (.uint value)

@[match_pattern] abbrev double (value : Float) : Value := .scalar (.double value)

@[match_pattern] abbrev string (value : String) : Value := .scalar (.string value)

def kind : Value → Kind
  | .scalar value => value.kind
  | .array _ => .array
  | .object _ => .object

/-- The truth of a value: an array is true unless empty, and an object has no truth. -/
def truth? : Value → Option Bool
  | .scalar value => some value.truth
  | .array items => some !items.isEmpty
  | .object _ => none

/-- A value that holds only canonical scalars, at any depth. -/
def IsCanonical (value : Value) : Prop := value.All Scalar.IsCanonical

/-- The value that a JSON document stands for. -/
def ofJson (json : Json) : Value := json.map Scalar.ofJson

/-- The JSON document that a value is written as. -/
def toJson (value : Value) : Json := value.map Scalar.toJson

/-- What a value is written as is read as the value with its scalars settled. -/
theorem ofJson_toJson (value : Value) : ofJson value.toJson = value.map Scalar.settled := by
  rw [ofJson, toJson, Doc.map_map]
  simp only [Scalar.ofJson_toJson]

end Value

end JsonRules
