/-
# JsonRules.Proofs.WholeRecord -- the variable for the whole record

A variable whose name is empty, null or left out stands for the record itself: the empty path leads
nowhere (`Expr.eval_record`).  Such a variable has no slot, and a rule that is nothing but the
variable lists no name (`Compilation.ofJson_record`).

Data therefore passes through such a rule, and could only be changed by the two conversions, to a
value and back.  They keep everything: the kind of a number, also at the limits of the words, a
double that happens to be an integer, and what stands under a key at any depth
(`Rule.whole_record_is_identity`).
-/
import JsonRules.Libraries
import JsonRules.Proofs.Compiled
import JsonRules.Proofs.Conversion
import JsonRules.Proofs.Forms

namespace JsonRules

set_option autoImplicit false

-- Powers are the built-in ones, also where Mathlib is imported.
attribute [local instance (high)] instPowNat

section

variable [PatternEngine]

/-- The run of a variable for the whole record asks for the record, and gives it. -/
theorem Expr.eval_record {name : Expr} (record : name.naming = .record) (slot : Option Nat)
    (value : Value) :
    (var name slot).eval (.host (.record value)) = ⟨[.lookup "" slot], .ok value⟩ := by
  rcases naming_eq_record_iff.mp record with rfl | rfl <;> rfl

namespace Compilation

/-- Whatever is read as an empty name, as null, or as no operand at all, gives a variable for the
whole record, which enters no name. -/
theorem ofJson_record {operand : Json} {operands : List Expr} {table later : NameTable}
    (each : ReadsInTurn (operandsOf operand) operands table later)
    (record : (nameOperand operands).naming = .record) :
    ofJson (.object [(Operator.var.name, operand)]) table
      = .ok (.var (nameOperand operands) none) later := by
  rw [ofJson_apply, operator_name, pure_bind]
  refine bind_eq_ok_iff.mpr ⟨operands, later, each, ?_⟩
  rw [build_var, register_eq, record]
  rfl

/-- The operands that make a variable stand for the whole record: an empty text or null, alone or in
a list, and an empty list. -/
def recordOperands : List Json :=
  [.scalar (.string ""), .scalar .null, .array [], .array [.scalar .null],
    .array [.scalar (.string "")]]

theorem exists_of_recordOperands {operand : Json} (listed : operand ∈ recordOperands) :
    ∃ operands, (∀ table, ReadsInTurn (operandsOf operand) operands table table) ∧
      (nameOperand operands).naming = .record := by
  have single (leaf : Json.Scalar) (table : NameTable) :
      ReadsInTurn [.scalar leaf] [.literal (.scalar (Scalar.ofJson leaf))] table table :=
    readsInTurn_of_namesNothing (.cons (namesNothing_scalar leaf) .nil) table
  simp only [recordOperands, List.mem_cons, List.not_mem_nil, or_false] at listed
  rcases listed with rfl | rfl | rfl | rfl | rfl
  · exact ⟨_, single (.string ""), rfl⟩
  · exact ⟨_, single .null, rfl⟩
  · exact ⟨[], readsInTurn_nil, rfl⟩
  · exact ⟨_, single .null, rfl⟩
  · exact ⟨_, single (.string ""), rfl⟩

end Compilation

namespace Rule

open Compilation (recordOperands)

/-- **The variable for the whole record is the identity.**  With each of the operands that make a
variable stand for the whole record, the variable is a rule that lists no name.  For any data its
run asks for the record, ends with the value of the data, and that value is written as the data.
Any value at all, written and read, is written again as it was written first.

And this is what comes out step by step: from data with its keys in order the conversions, by way
of how a number is held, with the entries of every object handed over in any order, lead to this
value and back to this data, and from such a value to what it is written as, to the value with its
scalars settled, and to what it was written as. -/
theorem whole_record_is_identity :
    (∀ operand ∈ recordOperands, ∃ rule, ofJson (.object [("var", operand)]) = .ok rule ∧
      rule.table = {} ∧ ∀ data : Json,
        rule.runOn data = ⟨[.lookup "" none], .ok (Value.ofJson data)⟩ ∧
        (Value.ofJson data).toJson = data) ∧
    (∀ value : Value, (Value.ofJson value.toJson).toJson = value.toJson) ∧
    (∀ data : Json, data.Ordered → ∀ value back,
      data.Rebuilds Scalar.takeHeld value ∧ value.Rebuilds Scalar.giveHeld back ↔
        value = Value.ofJson data ∧ back = data) ∧
    ∀ value : Value, value.Ordered → ∀ first taken again,
      value.Rebuilds Scalar.giveHeld first ∧ first.Rebuilds Scalar.takeHeld taken ∧
          taken.Rebuilds Scalar.giveHeld again ↔
        first = value.toJson ∧ taken = value.map Scalar.settled ∧ again = first := by
  refine ⟨fun operand listed => ?_, fun value => Value.toJson_ofJson value.toJson,
    fun data ordered value back => ?_, fun value ordered first taken again => ?_⟩
  · obtain ⟨operands, each, record⟩ := Compilation.exists_of_recordOperands listed
    refine ⟨⟨.var (Compilation.nameOperand operands) none, {}⟩, ?_, rfl, fun data => ⟨?_, ?_⟩⟩
    · exact ofJson_eq_ok_iff.mpr (Compilation.ofJson_record (each {}) record)
    · exact Expr.eval_record record none (Value.ofJson data)
    · exact Value.toJson_ofJson data
  · have taken : (Value.ofJson data).Ordered := (Doc.ordered_map _ data).mpr ordered
    rw [Value.rebuilds_ofJson_iff ordered]
    refine and_congr_right fun same => ?_
    rw [same, Value.rebuilds_toJson_iff taken, Value.toJson_ofJson]
  · have written : value.toJson.Ordered := (Doc.ordered_map _ value).mpr ordered
    rw [Value.rebuilds_toJson_iff ordered]
    refine and_congr_right fun same => ?_
    rw [same, Value.rebuilds_ofJson_iff written, Value.ofJson_toJson]
    refine and_congr_right fun same => ?_
    have settled : taken.Ordered := same ▸ (Doc.ordered_map _ value).mpr ordered
    rw [Value.rebuilds_toJson_iff settled, same, ← Value.ofJson_toJson, Value.toJson_ofJson]

end Rule

end

namespace Rule

/-- Integers at the limits of the words, doubles that are integers, and what is empty. -/
def limits : Json :=
  let integer (value : Int) (inRange : -2 ^ (63 : Nat) ≤ value ∧ value < 2 ^ (64 : Nat)) : Json :=
    .scalar (.number (.integer value inRange))
  let double (value : Float) (finite : value.isFinite = true) : Json :=
    .scalar (.number (.double value finite))
  .object
    [("", .array
      [integer (-2 ^ (63 : Nat)) (by decide), integer (-1) (by decide),
        integer (2 ^ (63 : Nat) - 1) (by decide), integer (2 ^ (63 : Nat)) (by decide),
        integer (2 ^ (64 : Nat) - 1) (by decide)]),
     ("a.b", .object
      [("double", .array
        [double 1 (by decide +kernel), double (-0.0) (by decide +kernel),
          double 9223372036854775808 (by decide +kernel)]),
       ("empty", .array [.array [], .object [], .scalar (.string ""), .scalar .null])])]

/-- The value of `limits`. -/
def limitsValue : Value :=
  .object
    [("", .array
      [Value.int Int64.minValue, Value.int (-1), Value.int Int64.maxValue,
        Value.uint (2 ^ (63 : Nat)), Value.uint (2 ^ (64 : Nat) - 1)]),
     ("a.b", .object
      [("double", .array
        [Value.double 1, Value.double (-0.0), Value.double 9223372036854775808]),
       ("empty", .array [.array [], .object [], Value.string "", Value.null])])]

/-- A value that no JSON document stands for. -/
def unsettled : Value :=
  .object [("int", Value.uint 7), ("null", .array [Value.double (1 / 0), Value.double (0 / 0)])]

/-- A null in a list stands for the whole record.  Of the other value the kind of its integer and
its doubles are lost, but only once. -/
theorem whole_record_is_identity_limits :
    limits.Ordered ∧ unsettled.Ordered ∧
      (∃ rule, ofJson (.object [("var", .array [.scalar .null])]) = .ok rule ∧
        rule.runOn limits = ⟨[.lookup "" none], .ok limitsValue⟩ ∧ limitsValue.toJson = limits) ∧
      limits.Rebuilds Scalar.takeHeld limitsValue ∧ limitsValue.Rebuilds Scalar.giveHeld limits ∧
      unsettled.Rebuilds Scalar.giveHeld unsettled.toJson ∧
      unsettled.toJson.Rebuilds Scalar.takeHeld
        (.object [("int", Value.int 7), ("null", .array [Value.null, Value.null])]) := by
  have ordered : limits.Ordered := by
    simp only [limits, Doc.Ordered, Doc.OrderedEntries, Doc.OrderedItems]
    decide
  have ordered' : unsettled.Ordered := by
    simp only [unsettled, Doc.Ordered, Doc.OrderedEntries, Doc.OrderedItems]
    decide
  have same : limitsValue = Value.ofJson limits := by decide +kernel
  have settled : unsettled.map Scalar.settled
      = .object [("int", Value.int 7), ("null", .array [Value.null, Value.null])] := by
    decide +kernel
  obtain ⟨identity, -, steps, steps'⟩ := whole_record_is_identity
  obtain ⟨rule, read, -, passes⟩ := identity (.array [.scalar .null]) (by decide)
  obtain ⟨run, back⟩ := passes limits
  obtain ⟨taken, given⟩ := (steps limits ordered limitsValue limits).mpr ⟨same, rfl⟩
  obtain ⟨written, reread, -⟩ := (steps' unsettled ordered' _ _ _).mpr ⟨rfl, rfl, rfl⟩
  rw [settled] at reread
  rw [← same] at run back
  exact ⟨ordered, ordered', ⟨rule, read, run, back⟩, taken, given, written, reread⟩

end Rule

end JsonRules
