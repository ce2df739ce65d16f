/-
# JsonRules.Proofs.IntegerTexts -- integers survive their text

The plain text of an integer is digits, with a minus sign in front of them if it is negative.  That
is a text that writes the integer (`Decimal.writesInteger_integerText`), and so it does with white
space at its two ends, since none of its own characters is white space (`Text.trim_padded`).
Reading it, where a signed integer is wanted, an unsigned one, or any number, therefore gives the
integer back, in the kind of word that holds it.

So an integer of a rule is equal to its own text, and the sum of its text alone is the integer
(`Expr.integers_survive_their_text`).
-/
import JsonRules.Libraries
import JsonRules.Proofs.Canonical
import JsonRules.Proofs.Forms
import JsonRules.Proofs.Saturation

namespace JsonRules

set_option autoImplicit false

section

-- Powers are the built-in ones, also where Mathlib is imported.
attribute [local instance (high)] instPowNat

-- Whether a number fits a word is not worked out: the bounds are too large to count to.
attribute [local irreducible] Word.int? Word.uint?

/-! ## White space around a text -/

namespace Text

theorem not_isBlank_of_isDigit {c : Char} (digit : c.isDigit = true) : isBlank c = false := by
  simp only [Char.isDigit, Bool.and_eq_true, decide_eq_true_eq, UInt32.le_iff_toNat_le] at digit
  have least : 48 ≤ c.toNat := digit.1
  have most : c.toNat ≤ 57 := digit.2
  simp only [isBlank, Bool.or_eq_false_iff, Bool.and_eq_false_iff, decide_eq_false_iff_not,
    beq_eq_false_iff_ne]
  omega

theorem trimLeft_append {s : List Char} (nonempty : s ≠ []) (dark : ∀ c ∈ s, isBlank c = false)
    (rest : List Char) : trimLeft (s ++ rest) = s ++ rest := by
  obtain ⟨c, s, rfl⟩ := List.exists_cons_of_ne_nil nonempty
  exact List.dropWhile_cons_of_neg (by simp [dark c List.mem_cons_self])

/-- A text without white space is what trimming leaves, whatever white space stands around it. -/
theorem trim_padded {before s after : List Char} (front : ∀ c ∈ before, isBlank c = true)
    (nonempty : s ≠ []) (dark : ∀ c ∈ s, isBlank c = false)
    (back : ∀ c ∈ after, isBlank c = true) : trim (before ++ s ++ after) = s := by
  have start : trimLeft (before ++ s ++ after) = s ++ after := by
    rw [List.append_assoc, trimLeft, List.dropWhile_append_of_pos front]
    exact trimLeft_append nonempty dark after
  have stop : trimLeft (s ++ after).reverse = s.reverse := by
    rw [List.reverse_append, trimLeft,
      List.dropWhile_append_of_pos fun c mem => back c (List.mem_reverse.mp mem)]
    have turned := trimLeft_append (List.reverse_ne_nil_iff.mpr nonempty)
      (fun c mem => dark c (List.mem_reverse.mp mem)) []
    rwa [List.append_nil] at turned
  rw [trim, start, stop, List.reverse_reverse]

end Text

/-! ## The text of an integer -/

namespace Decimal

open Text.Numeral (IsDigits WritesInteger)

theorem isDigits_toDigits (n : Nat) : IsDigits (Nat.toDigits 10 n) :=
  ⟨(Json.Reader.isWhole_toDigits n).ne_nil, fun _ => isDigit_toDigits⟩

/-- The text of an integer writes the integer. -/
theorem writesInteger_integerText (value : Int) : WritesInteger (integerText value) value := by
  have run := isDigits_toDigits value.natAbs
  unfold integerText
  split
  · have writes := WritesInteger.minus run
    rwa [Nat.ofDigitChars_ten_toDigits, show -(value.natAbs : Int) = value by omega] at writes
  · have writes := WritesInteger.bare run
    rwa [Nat.ofDigitChars_ten_toDigits, show (value.natAbs : Int) = value by omega] at writes

end Decimal

namespace Text.Numeral

/-- No character of a written integer is white space. -/
theorem WritesInteger.not_isBlank {s : List Char} {n : Int} (writes : WritesInteger s n) :
    s ≠ [] ∧ ∀ c ∈ s, isBlank c = false := by
  cases writes with
  | bare run => exact ⟨run.some, fun c mem => not_isBlank_of_isDigit (run.all c mem)⟩
  | plus run | minus run =>
      refine ⟨List.cons_ne_nil _ _, List.forall_mem_cons.mpr ⟨by decide, fun c mem => ?_⟩⟩
      exact not_isBlank_of_isDigit (run.all c mem)

end Text.Numeral

/-! ## Reading the text -/

/-- The text with some characters in front of it and some behind it. -/
def Text.padded (before after : List Char) (text : String) : String :=
  String.ofList (before ++ text.toList ++ after)

theorem Text.padded_nil (text : String) : padded [] [] text = text := by simp [padded]

namespace Scalar

theorem ofUInt_of_isCanonical {n : UInt64} (canonical : (uint n).IsCanonical) :
    ofUInt n = uint n := by
  have above : 2 ^ (63 : Nat) ≤ n.toNat := canonical
  rw [ofUInt, Word.int?_eq_none_iff.mpr (.inr (by omega)), Option.elim_none]

theorem ofInt?_toInt (n : Int64) : ofInt? n.toInt = some (int n) := by
  rw [ofInt?, Word.int?_eq_some_iff.mpr rfl]

theorem ofInt?_toNat (n : UInt64) : ofInt? n.toNat = some (ofUInt n) := by
  have fits : Word.uint? n.toNat = some n := Word.uint?_eq_some_iff.mpr rfl
  rw [ofInt?, ofUInt]
  cases Word.int? n.toNat with
  | some w => rfl
  | none => rw [fits, Option.map_some, Option.elim_none]

end Scalar

namespace Coercion

open Text (isBlank padded padded_nil)

open Text.Numeral (WritesInteger saturated)

variable {before after : List Char}

/-- White space around the text of an integer changes nothing. -/
theorem writesInteger_padded (front : ∀ c ∈ before, isBlank c = true)
    (back : ∀ c ∈ after, isBlank c = true) (value : Int) :
    WritesInteger
      (Text.trim (padded before after (String.ofList (Decimal.integerText value))).toList)
      value := by
  have writes := Decimal.writesInteger_integerText value
  have dark := writes.not_isBlank
  rw [padded, String.toList_ofList, String.toList_ofList,
    Text.trim_padded front dark.1 dark.2 back]
  exact writes

/-- Where a signed integer is wanted, its text gives the signed integer. -/
theorem parseInt_padded (front : ∀ c ∈ before, isBlank c = true)
    (back : ∀ c ∈ after, isBlank c = true) (n : Int64) :
    parseInt (padded before after (Scalar.int n).text) = .ok n := by
  have writes := writesInteger_padded front back n.toInt
  have fits : Word.int? n.toInt = some n := Word.int?_eq_some_iff.mpr rfl
  rw [parseInt, Scalar.text, writes.int?, Text.Numeral.saturated_of_int? fits, fits]
  rfl

theorem parseUInt_padded (front : ∀ c ∈ before, isBlank c = true)
    (back : ∀ c ∈ after, isBlank c = true) (n : UInt64) :
    parseUInt (padded before after (Scalar.uint n).text) = .ok n := by
  have writes := writesInteger_padded front back n.toNat
  have fits : Word.uint? n.toNat = some n := Word.uint?_eq_some_iff.mpr rfl
  rw [parseUInt, Scalar.text, writes.uint?, fits]
  rfl

/-- Where any number will do, the text of a signed integer gives the signed integer. -/
theorem parseNumber_padded_int (front : ∀ c ∈ before, isBlank c = true)
    (back : ∀ c ∈ after, isBlank c = true) (n : Int64) :
    parseNumber (padded before after (Scalar.int n).text) = .ok (.int n) := by
  have writes := writesInteger_padded front back n.toInt
  have fits : Word.int? n.toInt = some n := Word.int?_eq_some_iff.mpr rfl
  rw [parseNumber, Scalar.text, writes.number?, Text.Numeral.saturated_of_int? fits,
    Scalar.ofInt?_toInt]
  rfl

/-- An unsigned integer may come back signed. -/
theorem parseNumber_padded_uint (front : ∀ c ∈ before, isBlank c = true)
    (back : ∀ c ∈ after, isBlank c = true) (n : UInt64) :
    parseNumber (padded before after (Scalar.uint n).text) = .ok (.ofUInt n) := by
  have writes := writesInteger_padded front back n.toNat
  -- Only what lies below the least signed word is cut.
  have uncut : saturated (n.toNat : Int) = n.toNat := if_neg (by omega)
  rw [parseNumber, Scalar.text, writes.number?, uncut, Scalar.ofInt?_toNat]
  rfl

/-! ## The text alone -/

theorem parseNumber_text {v : Scalar} (whole : v.integer?.isSome) (canonical : v.IsCanonical) :
    parseNumber v.text = .ok v := by
  have none : ∀ c ∈ ([] : List Char), isBlank c = true := List.forall_mem_nil _
  cases v with
  | int n => rw [← padded_nil (Scalar.int n).text, parseNumber_padded_int none none]
  | uint n =>
      rw [← padded_nil (Scalar.uint n).text, parseNumber_padded_uint none none,
        Scalar.ofUInt_of_isCanonical canonical]
  | null | bool | double | string => cases whole

theorem comparands_string_int (op : Operator) (text : String) (n : Int64) :
    comparands op (.string text) (.int n)
      = (parseInt text).map fun a => .numbers (.integers (.int a n)) := rfl

theorem comparands_string_uint (op : Operator) (text : String) (n : UInt64) :
    comparands op (.string text) (.uint n)
      = (parseUInt text).map fun a => .numbers (.integers (.uint a n)) := rfl

/-- An integer is compared with its text as it is compared with itself. -/
theorem comparands_text (op : Operator) {v : Scalar} (whole : v.integer?.isSome) :
    comparands op (.string v.text) (.scalar v) = comparands op (.scalar v) (.scalar v) := by
  have none : ∀ c ∈ ([] : List Char), isBlank c = true := List.forall_mem_nil _
  cases v with
  | int n =>
      rw [comparands_string_int, ← padded_nil (Scalar.int n).text, parseInt_padded none none]
      rfl
  | uint n =>
      rw [comparands_string_uint, ← padded_nil (Scalar.uint n).text, parseUInt_padded none none]
      rfl
  | null | bool | double | string => cases whole

end Coercion

/-! ## Integers in a rule -/

variable [PatternEngine]

namespace Expr

open Text (isBlank padded)

open Coercion (parseInt parseUInt parseNumber)

variable {v : Scalar}

/-- The plain text of a literal. -/
def textOf (v : Scalar) : Expr := call (.fold .concat) [literal (.scalar v)]

omit [PatternEngine] in
theorem loose_text (whole : v.integer?.isSome) :
    Equality.test .loose (.string v.text) (.scalar v) = .ok true := by
  rw [Equality.test, Coercion.comparands_text _ whole]
  cases v with
  | int n =>
      have same : compare n.toInt n.toInt = .eq := compare_eq_iff_eq.mpr rfl
      exact congrArg (fun order => Except.ok (some order == some .eq)) same
  | uint n =>
      have same : compare n.toNat n.toNat = .eq := compare_eq_iff_eq.mpr rfl
      exact congrArg (fun order => Except.ok (some order == some .eq)) same
  | null | bool | double | string => cases whole

theorem eval_textOf (whole : v.integer?.isSome) (scope : Scope) :
    (textOf v).eval scope = pure (.string v.text) := by
  cases v with
  | int n | uint n => rfl
  | null | bool | double | string => cases whole

theorem eval_textOf_equal (whole : v.integer?.isSome) (scope : Scope) :
    (call (.equality .loose) [textOf v, literal (.scalar v)]).eval scope = pure (.bool true) := by
  have runs : (call (.equality .loose) [textOf v, literal (.scalar v)]).eval scope
      = (textOf v).eval scope >>= fun text =>
          Run.ofExcept (Equality.loose.test text (.scalar v)) >>= fun answer =>
            pure (.bool answer) := rfl
  rw [runs, eval_textOf whole, pure_bind, loose_text whole]
  rfl

theorem eval_textOf_sum (whole : v.integer?.isSome) (canonical : v.IsCanonical)
    (scope : Scope) : (call (.fold .sum) [textOf v]).eval scope = pure (.scalar v) := by
  have runs : (call (.fold .sum) [textOf v]).eval scope
      = ((textOf v).eval scope >>= fun text => Run.ofExcept (Meaning.convert .sum text)) >>= pure :=
    rfl
  rw [runs, eval_textOf whole, bind_pure, pure_bind]
  show Run.ofExcept ((parseNumber v.text).map Doc.scalar) = _
  rw [Coercion.parseNumber_text whole canonical]
  rfl

/-- **Integers survive their text.**  With any white space at the two ends of the text of a signed
integer, reading it where a signed integer or any number is wanted gives the integer.  The text of
an unsigned integer gives the integer where an unsigned one is wanted, and where any number is, the
integer in the kind that it has in a rule.  So let a rule hold an integer: the integer is equal to
its text, and the sum of its text is the integer, wherever this is evaluated. -/
theorem integers_survive_their_text {before after : List Char}
    (front : ∀ c ∈ before, isBlank c = true) (back : ∀ c ∈ after, isBlank c = true) :
    (∀ n : Int64,
      parseInt (padded before after (Scalar.int n).text) = .ok n ∧
      parseNumber (padded before after (Scalar.int n).text) = .ok (.int n)) ∧
    (∀ n : UInt64,
      parseUInt (padded before after (Scalar.uint n).text) = .ok n ∧
      parseNumber (padded before after (Scalar.uint n).text) = .ok (.ofUInt n)) ∧
    ∀ leaf : Json.Scalar, (Scalar.ofJson leaf).integer?.isSome →
      let textForm := (Operator.fold .concat).form [.scalar leaf]
      ∃ equal sum : Expr,
        Compilation.NamesNothing ((Operator.equality .loose).form [textForm, .scalar leaf]) equal ∧
        Compilation.NamesNothing ((Operator.fold .sum).form [textForm]) sum ∧
        ∀ scope, equal.eval scope = pure (.bool true) ∧
          sum.eval scope = pure (.scalar (Scalar.ofJson leaf)) := by
  refine ⟨fun n => ⟨Coercion.parseInt_padded front back n,
    Coercion.parseNumber_padded_int front back n⟩, fun n => ⟨Coercion.parseUInt_padded front back n,
    Coercion.parseNumber_padded_uint front back n⟩, ?_⟩
  intro leaf whole textForm
  have held := Compilation.namesNothing_scalar leaf
  have textReads : Compilation.NamesNothing textForm (textOf (Scalar.ofJson leaf)) :=
    Compilation.namesNothing_call (.cons held .nil) nofun nofun (Nat.le_refl 1)
  refine ⟨_, _, Compilation.namesNothing_call (.cons textReads (.cons held .nil)) nofun nofun
    (Nat.le_refl 2), Compilation.namesNothing_call (.cons textReads .nil) nofun nofun
    (Nat.le_refl 1), fun scope => ⟨eval_textOf_equal whole scope, ?_⟩⟩
  exact eval_textOf_sum whole (Scalar.isCanonical_ofJson leaf) scope

end Expr

end

namespace Expr

open Text (isBlank padded)

open Coercion (parseInt)

/-- The least signed integer between an em space and a line feed, and the greatest unsigned integer
in a rule. -/
theorem integers_survive_their_text_extreme :
    let greatest : Json.Scalar := .number (.integer (2 ^ (64 : Nat) - 1) (by decide))
    let textForm := (Operator.fold .concat).form [.scalar greatest]
    (∀ c ∈ ['\u2003'], isBlank c = true) ∧ (∀ c ∈ ['\n'], isBlank c = true) ∧
    padded ['\u2003'] ['\n'] (Scalar.int Int64.minValue).text = "\u2003-9223372036854775808\n" ∧
    parseInt (padded ['\u2003'] ['\n'] (Scalar.int Int64.minValue).text) = .ok Int64.minValue ∧
    (Scalar.ofJson greatest).integer?.isSome ∧
    ∃ sum : Expr, Compilation.NamesNothing ((Operator.fold .sum).form [textForm]) sum ∧
      ∀ scope, sum.eval scope = pure (.uint 18446744073709551615) := by
  intro greatest textForm
  have front : ∀ c ∈ ['\u2003'], isBlank c = true := List.forall_mem_singleton.mpr rfl
  have back : ∀ c ∈ ['\n'], isBlank c = true := List.forall_mem_singleton.mpr rfl
  have whole : (Scalar.ofJson greatest).integer?.isSome := by decide
  have reads := (integers_survive_their_text front back).1 Int64.minValue
  obtain ⟨_, sum, -, sumReads, runs⟩ :=
    (integers_survive_their_text front back).2.2 greatest whole
  exact ⟨front, back, by decide +kernel, reads.1, whole, sum, sumReads, fun scope => (runs scope).2⟩

end Expr

end JsonRules
