/-
# JsonRules.Json -- JSON documents

A JSON number is either an integer that fits a signed or an unsigned word of 64 bits,
or a finite double; both conditions are part of the type, so a document never holds
a number without a JSON spelling.
-/
import JsonRules.Doc

namespace JsonRules

set_option autoImplicit false

-- Powers are the built-in ones, also where Mathlib is imported.
attribute [local instance (high)] instPowNat

namespace Json

/-- A number of a JSON text. -/
inductive Number where
  | integer (value : Int) (inRange : -2 ^ (63 : Nat) ≤ value ∧ value < 2 ^ (64 : Nat))
  | double (value : Float) (finite : value.isFinite = true)
  deriving DecidableEq

/-- What a JSON text holds besides arrays and objects. -/
inductive Scalar where
  | null
  | bool (value : Bool)
  | number (value : Number)
  | string (value : String)
  deriving DecidableEq

instance : Inhabited Scalar := ⟨.null⟩

namespace Number

/-- An integer as a number, if a word holds it. -/
def ofInt? (value : Int) : Option Number :=
  if inRange : -2 ^ (63 : Nat) ≤ value ∧ value < 2 ^ (64 : Nat) then some (.integer value inRange) else none

/-- A double as a number, if it is finite. -/
def ofFloat? (x : Float) : Option Number :=
  if finite : x.isFinite = true then some (.double x finite) else none

end Number

end Json

/-- A JSON document. -/
abbrev Json := Doc Json.Scalar

end JsonRules
