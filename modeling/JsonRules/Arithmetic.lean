/-
# JsonRules.Arithmetic -- results of arithmetic and of comparisons

Arithmetic on integers is exact: the result is worked out as a whole number and stays an
integer if a word of its kind holds it; otherwise the same operation is done on doubles.
Division stays with integers only if it leaves no remainder, and dividing integers by zero
gives null.
-/
import JsonRules.Coercion

namespace JsonRules

set_option autoImplicit false

namespace NumberPair

open Coercion (ofInt ofUInt)

/-- An operation that is defined on whole numbers and on doubles. -/
def exact (whole : Int → Int → Int) (double : Float → Float → Float) : NumberPair → Scalar
  | .integers (.int a b) =>
      match Word.int? (whole a.toInt b.toInt) with
      | some n => .int n
      | none => .double (double (ofInt a) (ofInt b))
  | .integers (.uint a b) =>
      match Word.uint? (whole a.toNat b.toNat) with
      | some n => .ofUInt n
      | none => .double (double (ofUInt a) (ofUInt b))
  | .doubles a b => .double (double a b)

def sum : NumberPair → Scalar := exact (· + ·) (· + ·)

def product : NumberPair → Scalar := exact (· * ·) (· * ·)

/-- The difference; of two unsigned integers it is a signed one when it is negative, if the signed
word holds its magnitude. -/
def difference : NumberPair → Scalar
  | .integers (.uint a b) =>
      match Word.uint? ((a.toNat : Int) - b.toNat) with
      | some n => .ofUInt n
      | none =>
          match Word.int? ((b.toNat : Int) - a.toNat) with
          | some n => .int (-n)
          | none => .double (ofUInt a - ofUInt b)
  | pair => exact (· - ·) (· - ·) pair

/-- The quotient: null when integers are divided by zero, an integer when there is no remainder. -/
def quotient : NumberPair → Scalar
  | .integers (.int a b) =>
      if b = 0 then .null
      else
        match if a.toInt.tmod b.toInt = 0 then Word.int? (a.toInt.tdiv b.toInt) else none with
        | some n => .int n
        | none => .double (ofInt a / ofInt b)
  | .integers (.uint a b) =>
      if b = 0 then .null
      else if a % b = 0 then .ofUInt (a / b)
      else .double (ofUInt a / ofUInt b)
  | .doubles a b => .double (a / b)

def least : NumberPair → Scalar
  | .integers (.int a b) => .int (if b < a then b else a)
  | .integers (.uint a b) => .ofUInt (if b < a then b else a)
  | .doubles a b => .double (Double.min a b)

def greatest : NumberPair → Scalar
  | .integers (.int a b) => .int (if a < b then b else a)
  | .integers (.uint a b) => .ofUInt (if a < b then b else a)
  | .doubles a b => .double (Double.max a b)

end NumberPair

/-- The remainder of division toward zero, with the sign of the left operand; null when the divisor
is zero. -/
def IntegerPair.remainder : IntegerPair → Scalar
  | .int a b => if b = 0 then .null else .int (Int64.ofInt (a.toInt.tmod b.toInt))
  | .uint a b => if b = 0 then .null else .ofUInt (a % b)

namespace Value

/-- Does arithmetic with two values; two nulls give null. -/
def combine (op : Operator) (result : NumberPair → Scalar) (a b : Value) : Except Fault Value := do
  match ← Coercion.arithmetic op a b with
  | some pair => return .scalar (result pair)
  | none => return .null

/-- The remainder of two values, which have to be integers. -/
def remainder (a b : Value) : Except Fault Value := do
  return .scalar (← Coercion.integers (.arithmetic .remainder) a b).remainder

end Value

namespace Comparands

/-- How the first compares with the second; `none` if one of them is a NaN. -/
def order? : Comparands → Option Ordering
  | .numbers (.integers (.int a b)) => some (compare a.toInt b.toInt)
  | .numbers (.integers (.uint a b)) => some (compare a.toNat b.toNat)
  | .numbers (.doubles a b) =>
      if a < b then some .lt else if b < a then some .gt else if a == b then some .eq else none
  | .strings a b => some (compare a b)

end Comparands

/-- The relation holds between two things that compare so. -/
def Relation.holds : Relation → Ordering → Bool
  | less, order => order.isLT
  | lessEq, order => order.isLE
  | greater, order => order.isGT
  | greaterEq, order => order.isGE

/-- The relation between two values; it never holds where there is a NaN. -/
def Relation.test (relation : Relation) (a b : Value) : Except Fault Bool := do
  return (← Coercion.comparands (.relation relation) a b).order?.any relation.holds

/-- Equality of two values. -/
def Equality.test (equality : Equality) (a b : Value) : Except Fault Bool := do
  match equality with
  | loose => return (← Coercion.comparands (.equality .loose) a b).order? == some .eq
  | looseNot => return (← Coercion.comparands (.equality .looseNot) a b).order? != some .eq
  | strict => return Coercion.strictEq a b
  | strictNot => return !Coercion.strictEq a b

end JsonRules
