/-
# JsonRules.Proofs.Canonical -- integers in one form only

A scalar is canonical if it is no unsigned integer that a signed word holds.  Every place where a
number is made keeps to this: reading JSON (`Scalar.isCanonical_ofJson`), reading a text as a number
of the narrowest kind (`Scalar.isCanonical_parseNumber`), and the results of arithmetic, each in its
signed, its unsigned and its double form.  Operators therefore keep canonical values canonical
(`Value.invariant_isCanonical`).

Between canonical integers strict equality is equality of numbers, since a signed and an unsigned
one are never the same number (`Scalar.strictEq_of_isCanonical`).
-/
import JsonRules.Proofs.Docs
import JsonRules.Proofs.Simulation

namespace JsonRules

set_option autoImplicit false

-- Whether a number fits a word is not worked out: the bounds are too large to count to.
attribute [local irreducible] Word.int?

/-! ## Steps that can be faults -/

section Steps

variable {α β : Type} {outcome : Except Fault α} {b : β}

/-- A result that is mapped was there before. -/
theorem exists_of_map_eq_ok {f : α → β} (ok : outcome.map f = .ok b) :
    ∃ a, outcome = .ok a ∧ f a = b := by
  cases outcome with
  | error fault => cases ok
  | ok a =>
      cases ok
      exact ⟨a, rfl, rfl⟩

/-- The second of two steps has a result only if the first has one. -/
theorem exists_of_bind_eq_ok {next : α → Except Fault β} (ok : outcome >>= next = .ok b) :
    ∃ a, outcome = .ok a ∧ next a = .ok b := by
  cases outcome with
  | error fault => cases ok
  | ok a => exact ⟨a, rfl, ok⟩

end Steps

/-! ## Where numbers are made -/

namespace Scalar

theorem isCanonical_int (n : Int64) : (int n).IsCanonical := trivial

theorem isCanonical_double (x : Float) : (double x).IsCanonical := trivial

/-- An unsigned word that is too large for a signed one is canonical. -/
theorem isCanonical_of_int?_eq_none {w : UInt64} (large : Word.int? w.toNat = none) :
    (uint w).IsCanonical := by
  show 2 ^ 63 ≤ w.toNat
  unfold Word.int? at large
  split at large
  · cases large
  · omega

theorem isCanonical_ofUInt (w : UInt64) : (ofUInt w).IsCanonical := by
  unfold ofUInt
  cases fits : Word.int? w.toNat with
  | some n => trivial
  | none => exact isCanonical_of_int?_eq_none fits

/-- JSON numbers are unsigned only from the first number on that no signed word holds. -/
theorem isCanonical_ofJson (scalar : Json.Scalar) : (ofJson scalar).IsCanonical := by
  cases scalar with
  | null | bool | string => trivial
  | number value =>
      cases value with
      | double value finite => trivial
      | integer value inRange =>
          rw [ofJson, ofNumber]
          split
          · trivial
          · rename_i large
            show 2 ^ 63 ≤ (UInt64.ofNat value.toNat).toNat
            have small : value.toNat < 2 ^ 64 := by omega
            rw [UInt64.toNat_ofNat', Nat.mod_eq_of_lt small]
            omega

end Scalar

namespace Text.Numeral

theorem digits?_minus (s : List Char) : digits? ('-' :: s) = none := by
  simp [digits?]

/-- What is read as an unsigned integer is read as the same integer with a sign. -/
theorem integer?_of_unsigned? {s : List Char} {n : Nat} (read : unsigned? s = some n) :
    integer? s = some (n : Int) := by
  unfold unsigned? at read
  split at read
  · simp [integer?, sign, read]
  · rename_i notPlus
    have unsigned : sign s = (false, s) := by
      unfold sign
      split
      · exact absurd rfl (notPlus _)
      · rw [digits?_minus] at read
        cases read
      · rfl
    simp [integer?, unsigned, read]

/-- A text is read as an unsigned integer only if no signed word holds what it writes. -/
theorem isCanonical_number? {text : String} {scalar : Scalar} (read : number? text = some scalar) :
    scalar.IsCanonical := by
  unfold number? at read
  rw [Option.or_eq_some_iff] at read
  rcases read with signed | ⟨notSigned, read⟩
  · obtain ⟨n, -, rfl⟩ := Option.map_eq_some_iff.mp signed
    trivial
  rw [Option.or_eq_some_iff] at read
  rcases read with unsigned | ⟨-, read⟩
  · obtain ⟨w, fits, rfl⟩ := Option.map_eq_some_iff.mp unsigned
    obtain ⟨n, written, fits⟩ := Option.bind_eq_some_iff.mp fits
    -- the same text was read with a sign before, and no signed word was found for it
    rw [integer?_of_unsigned? written, Option.map_eq_none_iff, Option.bind_some] at notSigned
    rw [← Word.uint?_eq_some_iff.mp fits] at notSigned
    exact Scalar.isCanonical_of_int?_eq_none notSigned
  · obtain ⟨x, -, rfl⟩ := Option.map_eq_some_iff.mp read
    split <;> trivial

end Text.Numeral

theorem Scalar.isCanonical_parseNumber {text : String} {scalar : Scalar}
    (read : Coercion.parseNumber text = .ok scalar) : scalar.IsCanonical := by
  unfold Coercion.parseNumber Coercion.orCoercion at read
  split at read
  · rename_i number
    cases read
    exact Text.Numeral.isCanonical_number? number
  · cases read

namespace NumberPair

open Scalar (isCanonical_int isCanonical_double isCanonical_ofUInt)

theorem isCanonical_exact (whole : Int → Int → Int) (double : Float → Float → Float)
    (pair : NumberPair) : (exact whole double pair).IsCanonical := by
  unfold exact
  split
  · split
    · exact isCanonical_int _
    · exact isCanonical_double _
  · split
    · exact isCanonical_ofUInt _
    · exact isCanonical_double _
  · exact isCanonical_double _

theorem isCanonical_difference (pair : NumberPair) : pair.difference.IsCanonical := by
  unfold difference
  split
  · split
    · exact isCanonical_ofUInt _
    · split
      · exact isCanonical_int _
      · exact isCanonical_double _
  · exact isCanonical_exact _ _ _

theorem isCanonical_quotient (pair : NumberPair) : pair.quotient.IsCanonical := by
  unfold quotient
  split
  · split
    · trivial
    · split
      · exact isCanonical_int _
      · exact isCanonical_double _
  · split
    · trivial
    · split
      · exact isCanonical_ofUInt _
      · exact isCanonical_double _
  · exact isCanonical_double _

theorem isCanonical_least (pair : NumberPair) : pair.least.IsCanonical := by
  unfold least
  split
  · exact isCanonical_int _
  · exact isCanonical_ofUInt _
  · exact isCanonical_double _

theorem isCanonical_greatest (pair : NumberPair) : pair.greatest.IsCanonical := by
  unfold greatest
  split
  · exact isCanonical_int _
  · exact isCanonical_ofUInt _
  · exact isCanonical_double _

end NumberPair

theorem IntegerPair.isCanonical_remainder (pair : IntegerPair) : pair.remainder.IsCanonical := by
  unfold remainder
  split
  · split
    · trivial
    · exact Scalar.isCanonical_int _
  · split
    · trivial
    · exact Scalar.isCanonical_ofUInt _

/-! ## What operators make of values -/

namespace Value

theorem isCanonical_array {items : List Value} :
    IsCanonical (.array items) ↔ ∀ item ∈ items, item.IsCanonical :=
  Doc.allItems_iff items

theorem isCanonical_object {entries : List (String × Value)} :
    IsCanonical (.object entries) ↔ ∀ entry ∈ entries, entry.2.IsCanonical :=
  Doc.allEntries_iff entries

theorem isCanonical_ofJson (json : Json) : (ofJson json).IsCanonical :=
  Doc.all_map Scalar.isCanonical_ofJson json

/-- The result of arithmetic is canonical, whatever the operands are. -/
theorem isCanonical_combine {op : Operator} {result : NumberPair → Scalar}
    (canonical : ∀ pair, (result pair).IsCanonical) {a b value : Value}
    (ended : combine op result a b = .ok value) : value.IsCanonical := by
  obtain ⟨pair?, -, made⟩ := exists_of_bind_eq_ok ended
  cases pair? with
  | none =>
      cases made
      trivial
  | some pair =>
      cases made
      exact canonical pair

theorem isCanonical_remainder {a b value : Value} (ended : remainder a b = .ok value) :
    value.IsCanonical := by
  obtain ⟨pair, -, made⟩ := exists_of_bind_eq_ok ended
  cases made
  exact pair.isCanonical_remainder

theorem isCanonical_toArithmetic {op : Operator} {a value : Value} (canonical : a.IsCanonical)
    (ended : Coercion.toArithmetic op a = .ok value) : value.IsCanonical := by
  unfold Coercion.toArithmetic at ended
  split at ended
  case h_5 text =>
    obtain ⟨scalar, read, rfl⟩ := exists_of_map_eq_ok ended
    exact Scalar.isCanonical_parseNumber read
  case h_6 => cases ended
  all_goals
    cases ended
    exact canonical

theorem isCanonical_convert {step : Fold} {a value : Value} (canonical : a.IsCanonical)
    (ended : Meaning.convert step a = .ok value) : value.IsCanonical := by
  unfold Meaning.convert at ended
  split at ended
  · obtain ⟨text, -, rfl⟩ := exists_of_map_eq_ok ended
    trivial
  · cases ended
    exact canonical
  · cases ended
    exact isCanonical_array.mpr (List.forall_mem_singleton.mpr canonical)
  · exact isCanonical_toArithmetic canonical ended

theorem isCanonical_join {step : Fold} {a b value : Value} (canonical : a.IsCanonical)
    (canonical' : b.IsCanonical) (ended : Meaning.join step a b = .ok value) :
    value.IsCanonical := by
  unfold Meaning.join at ended
  split at ended
  · exact isCanonical_combine (NumberPair.isCanonical_exact _ _) ended
  · exact isCanonical_combine (NumberPair.isCanonical_exact _ _) ended
  · exact isCanonical_combine NumberPair.isCanonical_least ended
  · exact isCanonical_combine NumberPair.isCanonical_greatest ended
  · cases ended
    trivial
  · cases ended
    rw [isCanonical_array] at canonical canonical' ⊢
    exact List.forall_mem_append.mpr ⟨canonical, canonical'⟩
  · cases ended

/-- Operators make canonical values of canonical values. -/
theorem invariant_isCanonical : Value.Invariant IsCanonical where
  null := trivial
  bool _ := trivial
  string _ := trivial
  zero := trivial
  array := isCanonical_array.mpr
  items := isCanonical_array.mp
  entries := isCanonical_object.mp
  reduction accumulator current := ⟨accumulator, current, trivial⟩
  combine {step _ _ _} _ _ ended := by
    cases step with
    | minus => exact isCanonical_combine NumberPair.isCanonical_difference ended
    | divide => exact isCanonical_combine NumberPair.isCanonical_quotient ended
    | remainder => exact isCanonical_remainder ended
  convert := isCanonical_convert
  join := isCanonical_join

end Value

/-! ## Equality of integers -/

namespace Scalar

/-- Between canonical integers strict equality is equality of numbers. -/
theorem strictEq_of_isCanonical {a b : Scalar} (canonical : a.IsCanonical)
    (canonical' : b.IsCanonical) {m n : Int} (first : a.integer? = some m)
    (second : b.integer? = some n) :
    Coercion.strictEq (.scalar a) (.scalar b) = decide (m = n) := by
  cases a with
  | null | bool | double | string => cases first
  | int v =>
      cases first
      cases b with
      | null | bool | double | string => cases second
      | int w =>
          cases second
          show (v == w) = decide (v.toInt = w.toInt)
          rw [Bool.eq_iff_iff, beq_iff_eq, decide_eq_true_iff, Int64.toInt_inj]
      | uint w =>
          cases second
          have large : 2 ^ 63 ≤ w.toNat := canonical'
          have bound := (Word.toInt_bounds v).2
          have different : v.toInt ≠ w.toNat := by omega
          simp [Coercion.strictEq, different]
  | uint v =>
      cases first
      cases b with
      | null | bool | double | string => cases second
      | int w =>
          cases second
          have large : 2 ^ 63 ≤ v.toNat := canonical
          have bound := (Word.toInt_bounds w).2
          have different : (v.toNat : Int) ≠ w.toInt := by omega
          simp [Coercion.strictEq, different]
      | uint w =>
          cases second
          show (v == w) = decide ((v.toNat : Int) = w.toNat)
          rw [Bool.eq_iff_iff, beq_iff_eq, decide_eq_true_iff, Int.natCast_inj, UInt64.toNat_inj]

end Scalar

/-! ## Being canonical is decidable -/

instance : DecidablePred Scalar.IsCanonical
  | .uint value => inferInstanceAs (Decidable (2 ^ 63 ≤ value.toNat))
  | .null | .bool _ | .int _ | .double _ | .string _ => isTrue trivial

instance : DecidablePred Value.IsCanonical :=
  inferInstanceAs (DecidablePred (Doc.All Scalar.IsCanonical))

end JsonRules
