/-
# JsonRules.Proofs.Saturation -- integers that no word holds, read from a text

A text of an integer is read exactly wherever a word holds the integer.  Where none does, the text
is read again as a double, and the double may be an integer that a word holds although the text
writes another one: the 1024 numbers right below the least signed word come up to it
(`Text.Numeral.saturated`).  Nowhere else does this happen, neither above the signed words nor
beyond the unsigned ones (`Coercion.parses_integers`).

That a text of an integer takes part in both readings is said once, by the form of the text
(`Text.Numeral.WritesInteger`); the rest is about the double nearest to an integer.
-/
import JsonRules.Proofs.Numerals
import JsonRules.Proofs.Rounding
import JsonRules.Proofs.Words

namespace JsonRules

set_option autoImplicit false

theorem Scalar.ofInt?_eq (n : Int) :
    ofInt? n = ((Word.int? n).map int).or ((Word.uint? n).map uint) := by
  unfold ofInt?
  cases Word.int? n <;> rfl

namespace Text.Numeral

/-! ## Texts of integers -/

/-- One digit or more, and nothing else. -/
structure IsDigits (s : List Char) : Prop where
  some : s ≠ []
  all : ∀ c ∈ s, c.isDigit = true

/-- The text writes the integer: digits, with a sign in front of them or without one. -/
inductive WritesInteger : List Char → Int → Prop
  | bare {digits : List Char} (run : IsDigits digits) :
      WritesInteger digits (Nat.ofDigitChars 10 digits 0)
  | plus {digits : List Char} (run : IsDigits digits) :
      WritesInteger ('+' :: digits) (Nat.ofDigitChars 10 digits 0)
  | minus {digits : List Char} (run : IsDigits digits) :
      WritesInteger ('-' :: digits) (-(Nat.ofDigitChars 10 digits 0))

theorem IsDigits.digits? {s : List Char} (run : IsDigits s) :
    digits? s = Option.some (Nat.ofDigitChars 10 s 0) := by
  have all : s.all Char.isDigit = true := List.all_eq_true.mpr run.all
  have some : s.isEmpty = false := List.isEmpty_eq_false_iff.mpr run.some
  rw [Numeral.digits?, all, some, Decimal.ofDigits_eq]
  rfl

/-- A digit is no sign. -/
theorem IsDigits.sign {s : List Char} (run : IsDigits s) : sign s = (false, s) := by
  unfold Numeral.sign
  split
  · exact absurd (run.all '+' List.mem_cons_self) (by decide)
  · exact absurd (run.all '-' List.mem_cons_self) (by decide)
  · rfl

theorem IsDigits.unsigned? {s : List Char} (run : IsDigits s) :
    Numeral.unsigned? s = Option.some (Nat.ofDigitChars 10 s 0) := by
  rw [← run.digits?]
  unfold Numeral.unsigned?
  split
  · exact absurd (run.all '+' List.mem_cons_self) (by decide)
  · rfl

/-- As a decimal, digits have neither a fraction nor an exponent. -/
theorem IsDigits.decimal? {s : List Char} (run : IsDigits s) :
    decimal? s = Option.some ⟨Nat.ofDigitChars 10 s 0, 0⟩ := by
  have whole : s.takeWhile Char.isDigit = s := List.takeWhile_eq_self_iff.mpr run.all
  have rest : s.dropWhile Char.isDigit = [] := List.dropWhile_eq_nil_iff.mpr run.all
  have some : s.isEmpty = false := List.isEmpty_eq_false_iff.mpr run.some
  unfold Numeral.decimal?
  simp only [whole, rest, some]
  simp [exponent?, Decimal.ofParts, Decimal.ofDigits_eq]

theorem isDigits_of_digits? {s : List Char} {n : Nat} (reads : digits? s = some n) :
    IsDigits s ∧ n = Nat.ofDigitChars 10 s 0 := by
  unfold digits? at reads
  split at reads
  · rename_i run
    rw [Bool.and_eq_true, Bool.not_eq_true', List.isEmpty_eq_false_iff] at run
    cases reads
    exact ⟨⟨run.1, List.all_eq_true.mp run.2⟩, Decimal.ofDigits_eq s⟩
  · cases reads

theorem integer?_eq (s : List Char) :
    integer? s = (digits? (Numeral.sign s).2).map fun (magnitude : Nat) =>
      if (Numeral.sign s).1 then -(magnitude : Int) else magnitude := by
  unfold integer?
  obtain ⟨negative, digits⟩ := Numeral.sign s
  dsimp only
  cases digits? digits <;> rfl

/-- The reader of integers takes the texts that write one and no others. -/
theorem integer?_eq_some_iff {s : List Char} {n : Int} :
    integer? s = some n ↔ WritesInteger s n := by
  rw [integer?_eq]
  constructor
  · intro reads
    obtain ⟨magnitude, digits, rfl⟩ := Option.map_eq_some_iff.mp reads
    obtain ⟨run, rfl⟩ := isDigits_of_digits? digits
    revert run
    unfold Numeral.sign
    split
    · exact .plus
    · exact .minus
    · exact .bare
  · intro writes
    cases writes with
    | bare run => rw [run.sign, run.digits?]; rfl
    | plus run => exact congrArg (Option.map _) run.digits?
    | minus run => exact congrArg (Option.map _) run.digits?

instance (s : List Char) (n : Int) : Decidable (WritesInteger s n) :=
  decidable_of_iff _ integer?_eq_some_iff

/-- Where only unsigned numbers are meant, a minus sign is none. -/
theorem WritesInteger.unsigned? {s : List Char} {n : Int} (writes : WritesInteger s n) :
    (∃ magnitude : Nat, unsigned? s = some magnitude ∧ n = magnitude) ∨
      unsigned? s = none ∧ n ≤ 0 := by
  cases writes with
  | bare run => exact .inl ⟨_, run.unsigned?, rfl⟩
  | plus run => exact .inl ⟨_, run.digits?, rfl⟩
  | minus run =>
      refine .inr ⟨?_, by omega⟩
      simp [Numeral.unsigned?, Numeral.digits?]

/-- The sign of an integer, and the decimal that its digits write. -/
theorem WritesInteger.sign {s : List Char} {n : Int} (writes : WritesInteger s n) :
    ∃ negative digits, Numeral.sign s = (negative, digits) ∧
      Numeral.decimal? digits = some ⟨n.natAbs, 0⟩ ∧ if negative then n ≤ 0 else 0 ≤ n := by
  cases writes with
  | bare run => exact ⟨false, _, run.sign, run.decimal?, Int.natCast_nonneg _⟩
  | plus run => exact ⟨false, _, rfl, run.decimal?, Int.natCast_nonneg _⟩
  | minus run =>
      refine ⟨true, _, rfl, ?_, by simp⟩
      rw [Int.natAbs_neg, Int.natAbs_natCast]
      exact run.decimal?

/-- The double that a text of an integer writes is the one nearest to the integer, but for the sign
of a zero. -/
theorem WritesInteger.double? {text : String} {n : Int}
    (writes : WritesInteger (trim text.toList) n) :
    ∃ x : Float, Numeral.double? text = (if x.isFinite then some x else none) ∧
      Double.truncate? x = Double.truncate? (Double.ofInt n) ∧
      Double.whole? x = Double.whole? (Double.ofInt n) := by
  obtain ⟨negative, digits, signed, decimal, side⟩ := writes.sign
  refine ⟨Decimal.toSignedFloat negative ⟨n.natAbs, 0⟩, ?_, ?_⟩
  · rw [Numeral.double?, signed]
    dsimp only
    rw [decimal]
    rfl
  · rw [Decimal.toSignedFloat, Decimal.toFloat_whole]
    cases negative with
    | false =>
        have nonnegative : ¬ n < 0 := Int.not_lt.mpr side
        rw [Double.ofInt, if_neg nonnegative]
        exact ⟨rfl, rfl⟩
    | true =>
        rcases Int.lt_or_eq_of_le side with negative | zero
        · rw [Double.ofInt, if_pos negative]
          exact ⟨rfl, rfl⟩
        · rw [zero]
          decide +kernel

/-- An integer that is wanted is also looked for in the double. -/
theorem WritesInteger.truncated? {text : String} {n : Int}
    (writes : WritesInteger (trim text.toList) n) :
    Numeral.truncated? text = Double.truncate? (Double.ofInt n) := by
  obtain ⟨x, reads, same, -⟩ := writes.double?
  rw [Numeral.truncated?, reads, ← same]
  split
  · rfl
  · rename_i infinite
    rw [Double.truncate?, Double.exact_eq_none infinite]
    rfl

/-! ## Integers at the limit -/

/-- The integer that is read: the least signed word in the place of the 1024 integers right below
it, and any other integer itself. -/
def saturated (n : Int) : Int :=
  if -2 ^ 63 - 1024 ≤ n ∧ n < -2 ^ 63 then -2 ^ 63 else n

theorem saturated_of_int? {n : Int} {w : Int64} (fits : Word.int? n = some w) :
    saturated n = n := by
  have bounds := Word.toInt_bounds w
  rw [Word.int?_eq_some_iff.mp fits] at bounds
  exact if_neg (by omega)

/-- What a word may hold of an integer that no signed word holds: nothing, except below the least
signed word, where the double nearest to the integer may be this word. -/
theorem int?_cut {n : Int} {cut : Option Int} (outside : Word.int? n = none)
    (opened : ∀ m, cut = some m → Double.truncate? (Double.ofInt n) = some m)
    (limit : -2 ^ 63 - 1024 ≤ n → n ≤ -2 ^ 63 → cut = some (-2 ^ 63)) :
    cut.bind Word.int? = Word.int? (saturated n) := by
  by_cases near : -2 ^ 63 - 1024 ≤ n ∧ n < -2 ^ 63
  · rw [limit near.1 (Int.le_of_lt near.2), saturated, if_pos near]
    rfl
  · rw [saturated, if_neg near, outside]
    cases found : cut with
    | none => rfl
    | some m =>
        have cutOff := opened m found
        refine Word.int?_eq_none_iff.mpr ?_
        rcases Word.int?_eq_none_iff.mp outside with below | above
        · exact .inl (Double.truncate?_ofInt_lt (by omega) cutOff)
        · exact .inr (Double.le_truncate?_ofInt above cutOff)

/-- Where a signed integer is wanted, the integer is read, or what it saturates to. -/
theorem WritesInteger.int? {text : String} {n : Int}
    (writes : WritesInteger (trim text.toList) n) :
    Numeral.int? text = Word.int? (saturated n) := by
  rw [Numeral.int?, integer?_eq_some_iff.mpr writes, writes.truncated?, Option.bind_some]
  cases fits : Word.int? n with
  | some w => rw [saturated_of_int? fits, fits, Option.some_or]
  | none =>
      rw [Option.none_or]
      apply int?_cut fits
      · intro m opened
        exact opened
      · intro least most
        exact Double.truncate?_of_whole? (Double.whole?_ofInt_limit least most)

/-- Where an unsigned integer is wanted, the integer is read and no other. -/
theorem WritesInteger.uint? {text : String} {n : Int}
    (writes : WritesInteger (trim text.toList) n) : Numeral.uint? text = Word.uint? n := by
  have fallback (outside : Word.uint? n = none) :
      (Double.truncate? (Double.ofInt n)).bind Word.uint? = none := by
    cases opened : Double.truncate? (Double.ofInt n) with
    | none => rfl
    | some m =>
        refine Word.uint?_eq_none_iff.mpr ?_
        rcases Word.uint?_eq_none_iff.mp outside with negative | above
        · exact .inl (Double.truncate?_ofInt_neg_lt negative opened)
        · exact .inr (Double.le_truncate?_ofInt above opened)
  rw [Numeral.uint?, writes.truncated?]
  rcases writes.unsigned? with ⟨magnitude, reads, rfl⟩ | ⟨reads, most⟩
  · rw [reads, Option.bind_some]
    cases fits : Word.uint? magnitude with
    | some w => rfl
    | none => rw [Option.none_or, fallback fits]
  · rw [reads, Option.bind_none, Option.none_or]
    rcases Int.lt_or_eq_of_le most with negative | rfl
    · have outside := Word.uint?_eq_none_iff.mpr (.inl negative)
      rw [fallback outside, outside]
    · decide +kernel

/-- A double as a number: the signed integer that is equal to it, if there is one. -/
def narrow (x : Float) : Scalar :=
  match (Double.whole? x).bind Word.int? with
  | some w => .int w
  | none => .double x

/-- The three readings that a number can have. -/
theorem number?_eq (text : String) :
    number? text = (((Numeral.integer? (trim text.toList)).bind Word.int?).map Scalar.int).or
      ((((unsigned? (trim text.toList)).bind fun n => Word.uint? n).map Scalar.uint).or
        ((double? text).map narrow)) :=
  rfl

/-- A double that is read for want of a word is an integer again only at the limit. -/
theorem WritesInteger.narrow {text : String} {n : Int}
    (writes : WritesInteger (trim text.toList) n) (outside : Word.int? n = none) :
    (Numeral.double? text).map Numeral.narrow
      = ((Word.int? (saturated n)).map Scalar.int).or
          ((Numeral.double? text).map Scalar.double) := by
  obtain ⟨x, reads, -, whole⟩ := writes.double?
  have cut : (Double.whole? x).bind Word.int? = Word.int? (saturated n) := by
    rw [whole]
    apply int?_cut outside
    · intro m found
      exact Double.truncate?_of_whole? found
    · intro least most
      exact Double.whole?_ofInt_limit least most
  rw [reads]
  by_cases finite : x.isFinite = true
  · rw [if_pos finite, Option.map_some, Numeral.narrow, cut]
    cases Word.int? (saturated n) <;> rfl
  · have closed : Double.whole? x = none := by
      rw [Double.whole?, Double.exact_eq_none finite]
      rfl
    rw [closed, Option.bind_none] at cut
    rw [if_neg finite, ← cut]
    rfl

/-- Where any number will do, the narrowest integer is read that a word holds; where none does, a
double is. -/
theorem WritesInteger.number? {text : String} {n : Int}
    (writes : WritesInteger (trim text.toList) n) :
    Numeral.number? text
      = (Scalar.ofInt? (saturated n)).or ((Numeral.double? text).map Scalar.double) := by
  rw [number?_eq, integer?_eq_some_iff.mpr writes, Option.bind_some, Scalar.ofInt?_eq]
  cases fits : Word.int? n with
  | some w =>
      rw [saturated_of_int? fits, fits, Option.map_some, Option.some_or, Option.some_or,
        Option.some_or]
  | none =>
      rw [Option.map_none, Option.none_or, writes.narrow fits, Option.or_assoc]
      rcases writes.unsigned? with ⟨magnitude, digits, rfl⟩ | ⟨digits, most⟩
      · -- Above the signed words the digits are also read without a sign.
        have above : 2 ^ 63 ≤ (magnitude : Int) := by
          have outside := Word.int?_eq_none_iff.mp fits
          omega
        have same : saturated magnitude = magnitude := if_neg (by omega)
        rw [same, fits, digits, Option.bind_some, Option.map_none, Option.none_or, Option.none_or]
      · have negative : saturated n < 0 := by
          have outside := Word.int?_eq_none_iff.mp fits
          unfold saturated
          split <;> omega
        rw [digits, Word.uint?_eq_none_iff.mpr (.inl negative), Option.bind_none, Option.map_none,
          Option.none_or, Option.none_or]

end Text.Numeral

namespace Coercion

open Text.Numeral (WritesInteger IsDigits saturated)

/-- What a text of an integer is read as, by each of the three readers.  A word that holds the
integer is always found, and any number that is wanted is a double where no word holds the integer.
No other integer is ever given, but for one: the 1024 integers right below the least signed word are
read as this word, where a signed integer or any number is wanted. -/
theorem parses_integers {text : String} {n : Int}
    (writes : WritesInteger (Text.trim text.toList) n) :
    parseInt text = orCoercion text .int (Word.int? (saturated n)) ∧
    parseUInt text = orCoercion text .uint (Word.uint? n) ∧
    parseNumber text = orCoercion text .double
      ((Scalar.ofInt? (saturated n)).or ((Text.Numeral.double? text).map Scalar.double)) := by
  rw [parseInt, parseUInt, parseNumber, writes.int?, writes.uint?, writes.number?]
  exact ⟨rfl, rfl, rfl⟩

/-- Between the two kinds of words: the text is no signed integer, and not rounded to one. -/
theorem parses_integers_above :
    WritesInteger (Text.trim " +9223372036854775808 ".toList) 9223372036854775808 ∧
    parseInt " +9223372036854775808 " = .error (.coercion " +9223372036854775808 " .int) ∧
    parseUInt " +9223372036854775808 " = .ok 9223372036854775808 ∧
    parseNumber " +9223372036854775808 " = .ok (.uint 9223372036854775808) := by
  have writes : WritesInteger (Text.trim " +9223372036854775808 ".toList) 9223372036854775808 := by
    decide
  obtain ⟨signed, unsigned, number⟩ := parses_integers writes
  exact ⟨writes, signed, unsigned, number⟩

/-- The integer below the least signed word is read as this word, though no word holds it. -/
theorem saturates_below_least_word :
    WritesInteger (Text.trim "-9223372036854775809".toList) (-9223372036854775809) ∧
    Word.int? (-9223372036854775809) = none ∧
    parseInt "-9223372036854775809" = .ok Int64.minValue ∧
    parseNumber "-9223372036854775809" = .ok (.int Int64.minValue) := by
  refine ⟨by decide, by decide, by decide +kernel, by decide +kernel⟩

end Coercion

end JsonRules
