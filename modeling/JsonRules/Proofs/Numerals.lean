/-
# JsonRules.Proofs.Numerals -- reading a written number

A number text taken apart is a `Numeral`, and the reader of numbers takes the text of a numeral apart
into this numeral (`numeral_text`), provided that nothing behind it goes on with the number.  So an
integer is read back from its digits (`number_integerText`).

The layouts that keep a fraction write the text of a numeral, too, one for each place that the point
can have among the digits (`Decimal.spells_below`, `spells_inside`, `spells_above`,
`spells_scientific`).  Which double such a numeral is read as is up to the library.  The double next
to it is the one that was written (`Decimal.render_eq`).
-/
import JsonRules.Decimal.Layout
import JsonRules.Json.Reader
import JsonRules.Proofs.Shortest

namespace JsonRules

set_option autoImplicit false

/-! ## Runs of digits -/

namespace Decimal

theorem ofDigits_eq (digits : List Char) : ofDigits digits = Nat.ofDigitChars 10 digits 0 :=
  Nat.ofDigitChars_eq_foldl.symm

theorem ofDigits_toDigits (n : Nat) : ofDigits (Nat.toDigits 10 n) = n := by
  rw [ofDigits_eq, Nat.ofDigitChars_ten_toDigits]

theorem isDigit_toDigits {n : Nat} {c : Char} (mem : c ∈ Nat.toDigits 10 n) : c.isDigit = true :=
  Nat.isDigit_of_mem_toDigits (by decide) (by decide) mem

/-- The digits of a positive number do not start with a zero. -/
theorem toDigits_lead {n : Nat} (positive : 0 < n) :
    ∃ c cs, Nat.toDigits 10 n = c :: cs ∧ c ≠ '0' := by
  induction n using Nat.strongRecOn with
  | _ n ih =>
      by_cases single : n < 10
      · rw [Nat.toDigits_of_lt_base single]
        have nonzero : ∀ m < 10, 0 < m → m.digitChar ≠ '0' := by decide
        exact ⟨_, _, rfl, nonzero n single positive⟩
      · obtain ⟨c, cs, lead, nonzero⟩ := ih (n / 10) (by omega) (by omega)
        rw [Nat.toDigits_of_base_le (by decide) (by omega), lead]
        exact ⟨c, _, rfl, nonzero⟩

end Decimal

namespace Json.Reader

/-- Nothing that a run of digits would go on with. -/
def EndsDigits (rest : List Char) : Prop := ∀ c ∈ rest.head?, c.isDigit = false

/-- Nothing that a number would go on with. -/
def EndsNumber (rest : List Char) : Prop :=
  ∀ c ∈ rest.head?, c.isDigit = false ∧ c ≠ '.' ∧ c ≠ 'e' ∧ c ≠ 'E'

theorem EndsNumber.endsDigits {rest : List Char} (ends : EndsNumber rest) : EndsDigits rest :=
  fun c mem => (ends c mem).1

theorem digits_append {ds rest : List Char} (all : ∀ c ∈ ds, c.isDigit = true)
    (ends : EndsDigits rest) : digits (ds ++ rest) = (ds, rest) := by
  unfold digits
  rw [List.takeWhile_append_of_pos all, List.dropWhile_append_of_pos all]
  cases rest with
  | nil => simp
  | cons c rest => simp [ends c rfl]

/-- The digits before a point: a zero stands alone. -/
structure IsWhole (ds : List Char) : Prop where
  digits : ∀ c ∈ ds, c.isDigit = true
  lead : ds = ['0'] ∨ ∃ c cs, ds = c :: cs ∧ c ≠ '0'

theorem IsWhole.ne_nil {ds : List Char} (whole : IsWhole ds) : ds ≠ [] := by
  obtain ⟨-, rfl | ⟨c, cs, rfl, -⟩⟩ := whole <;> exact List.cons_ne_nil _ _

theorem isWhole_toDigits (n : Nat) : IsWhole (Nat.toDigits 10 n) := by
  refine ⟨fun c => Decimal.isDigit_toDigits, ?_⟩
  obtain rfl | positive := Nat.eq_zero_or_pos n
  · exact .inl rfl
  · exact .inr (Decimal.toDigits_lead positive)

theorem wholeDigits_append {ds rest : List Char} (whole : IsWhole ds) (ends : EndsDigits rest) :
    wholeDigits (ds ++ rest) = .ok (ds, rest) := by
  obtain rfl | ⟨c, cs, rfl, nonzero⟩ := whole.lead
  · cases rest with
    | nil => rfl
    | cons d rest =>
        have := ends d rfl
        simp [wholeDigits, this]
  · have digit := whole.digits c List.mem_cons_self
    rw [List.cons_append, wholeDigits.eq_def]
    dsimp only
    rw [if_neg nonzero, if_pos digit, ← List.cons_append, digits_append whole.digits ends]

theorem fractionDigits_none {rest : List Char} (noPoint : ∀ c ∈ rest.head?, c ≠ '.') :
    fractionDigits rest = .ok ([], rest) := by
  unfold fractionDigits
  split
  · exact absurd rfl (noPoint '.' rfl)
  · rfl

theorem fractionDigits_append {ds rest : List Char} (some : ds ≠ [])
    (all : ∀ c ∈ ds, c.isDigit = true) (ends : EndsDigits rest) :
    fractionDigits ('.' :: (ds ++ rest)) = .ok (ds, rest) := by
  rw [fractionDigits, digits_append all ends]
  cases ds with
  | nil => exact absurd rfl some
  | cons d ds => rfl

theorem exponentPart_none {rest : List Char} (small : Bool) (ends : EndsNumber rest) :
    exponentPart small rest = .ok (none, rest) := by
  cases rest with
  | nil => rfl
  | cons c rest =>
      have := ends c rfl
      rw [exponentPart.eq_def]
      dsimp only
      rw [if_neg (by simp [this])]

theorem overflow?_eq_none {ds rest : List Char} {value : Nat} (all : ∀ c ∈ ds, c.isDigit = true)
    (ends : EndsDigits rest) (bounded : Nat.ofDigitChars 10 ds value ≤ maxExponent) :
    overflow? value (ds ++ rest) = none := by
  induction ds generalizing value with
  | nil =>
      cases rest with
      | nil => rfl
      | cons c rest =>
          rw [List.nil_append, overflow?, if_neg (by simp [ends c rfl])]
  | cons d ds ih =>
      rw [Nat.ofDigitChars_cons] at bounded
      have here : 10 * value + Decimal.digitValue d ≤ maxExponent := by
        rw [Nat.ofDigitChars_eq_ofDigitChars_zero] at bounded
        have grows := Nat.le_mul_of_pos_left (10 * value + Decimal.digitValue d)
          (Nat.pow_pos (by decide : 0 < 10) (n := ds.length))
        exact (grows.trans (Nat.le_add_right _ _)).trans bounded
      rw [List.cons_append, overflow?, if_pos (all d List.mem_cons_self)]
      dsimp only
      rw [if_neg (Nat.not_lt.mpr here)]
      exact ih (fun c mem => all c (List.mem_cons_of_mem d mem)) bounded

section Exponent

variable {small : Bool} {d : Char} {ds rest : List Char}
  (all : ∀ c ∈ d :: ds, c.isDigit = true) (ends : EndsDigits rest)
  (bounded : Decimal.ofDigits (d :: ds) ≤ maxExponent)

include all ends bounded

theorem exponentPart_minus :
    exponentPart small ('e' :: '-' :: (d :: ds ++ rest))
      = .ok (some (-Decimal.ofDigits (d :: ds)), rest) := by
  have fits := overflow?_eq_none all ends (Decimal.ofDigits_eq _ ▸ bounded)
  simp only [exponentPart, digits_append all ends, fits]
  rfl

theorem exponentPart_plus :
    exponentPart small ('e' :: '+' :: (d :: ds ++ rest))
      = .ok (some (Decimal.ofDigits (d :: ds)), rest) := by
  have fits := overflow?_eq_none all ends (Decimal.ofDigits_eq _ ▸ bounded)
  simp only [exponentPart, digits_append all ends, fits]
  rfl

theorem exponentPart_unsigned :
    exponentPart small ('e' :: (d :: ds ++ rest))
      = .ok (some (Decimal.ofDigits (d :: ds)), rest) := by
  have fits := overflow?_eq_none all ends (Decimal.ofDigits_eq _ ▸ bounded)
  have digit := all d List.mem_cons_self
  have notPlus : d ≠ '+' := by rintro rfl; exact absurd digit (by decide)
  have notMinus : d ≠ '-' := by rintro rfl; exact absurd digit (by decide)
  rw [exponentPart]
  · simp only [digits_append all ends, fits]
    rfl
  · intro behind same
    exact notPlus (List.cons.inj same).1
  · intro behind same
    exact notMinus (List.cons.inj same).1

end Exponent

end Json.Reader

/-! ## The text of a numeral -/

namespace Json.Numeral

/-- The exponent; `plus` says whether a positive one has its sign. -/
def exponentText (plus : Bool) : Option Int → List Char
  | none => []
  | some exponent =>
      'e' :: ((if exponent < 0 then ['-'] else if plus then ['+'] else [])
        ++ Nat.toDigits 10 exponent.natAbs)

def fractionText : List Char → List Char
  | [] => []
  | d :: ds => '.' :: d :: ds

theorem fractionText_of_ne_nil {ds : List Char} (some : ds ≠ []) : fractionText ds = '.' :: ds := by
  cases ds with
  | nil => exact absurd rfl some
  | cons d ds => rfl

/-- The digits before the point, and what is behind them. -/
def unsignedText (plus : Bool) (n : Numeral) : List Char :=
  n.whole ++ (fractionText n.fraction ++ exponentText plus n.exponent)

def text (plus : Bool) (n : Numeral) : List Char :=
  (if n.negative then ['-'] else []) ++ n.unsignedText plus

/-- What the digits mean. -/
def decimal (n : Numeral) : Decimal := .ofParts n.whole n.fraction (n.exponent.getD 0)

/-- The text is a number text of the grammar, and its exponent is not too large to be read. -/
structure IsRegular (n : Numeral) : Prop where
  whole : Reader.IsWhole n.whole
  fraction : ∀ c ∈ n.fraction, c.isDigit = true
  exponent : ∀ exponent ∈ n.exponent, exponent.natAbs ≤ Reader.maxExponent

end Json.Numeral

namespace Json.Reader

open Numeral

variable (plus : Bool) {rest : List Char}

theorem head_exponentText (exponent : Option Int) (ends : EndsNumber rest) :
    ∀ c ∈ (exponentText plus exponent ++ rest).head?, c.isDigit = false ∧ c ≠ '.' := by
  cases exponent with
  | none => exact fun c mem => ⟨(ends c mem).1, (ends c mem).2.1⟩
  | some exponent =>
      rintro c mem
      obtain rfl : 'e' = c := by simpa [exponentText] using mem
      decide

theorem exponentPart_exponentText (small : Bool) {exponent : Option Int}
    (bounded : ∀ n ∈ exponent, n.natAbs ≤ maxExponent) (ends : EndsNumber rest) :
    exponentPart small (exponentText plus exponent ++ rest) = .ok (exponent, rest) := by
  cases exponent with
  | none => exact exponentPart_none small ends
  | some exponent =>
      have bounded := bounded exponent rfl
      have reads := Decimal.ofDigits_toDigits exponent.natAbs
      have all := (isWhole_toDigits exponent.natAbs).digits
      rw [exponentText]
      obtain ⟨d, ds, same⟩ := List.exists_cons_of_ne_nil (isWhole_toDigits exponent.natAbs).ne_nil
      rw [same] at reads all ⊢
      rw [← reads] at bounded
      split_ifs with negative
      · refine (exponentPart_minus all ends.endsDigits bounded).trans ?_
        rw [reads, Int.ofNat_natAbs_of_nonpos negative.le, neg_neg]
      · refine (exponentPart_plus all ends.endsDigits bounded).trans ?_
        rw [reads, Int.natAbs_of_nonneg (not_lt.mp negative)]
      · refine (exponentPart_unsigned all ends.endsDigits bounded).trans ?_
        rw [reads, Int.natAbs_of_nonneg (not_lt.mp negative)]

theorem endsDigits_fraction (fraction : List Char) (exponent : Option Int)
    (ends : EndsNumber rest) :
    EndsDigits (fractionText fraction ++ (exponentText plus exponent ++ rest)) := by
  cases fraction with
  | nil => exact fun c mem => (head_exponentText plus exponent ends c mem).1
  | cons d ds =>
      intro c mem
      obtain rfl : '.' = c := by simpa [fractionText] using mem
      decide

theorem fractionDigits_fractionText {fraction : List Char} (exponent : Option Int)
    (all : ∀ c ∈ fraction, c.isDigit = true) (ends : EndsNumber rest) :
    fractionDigits (fractionText fraction ++ (exponentText plus exponent ++ rest))
      = .ok (fraction, exponentText plus exponent ++ rest) := by
  cases fraction with
  | nil => exact fractionDigits_none fun c mem => (head_exponentText plus exponent ends c mem).2
  | cons d ds =>
      exact fractionDigits_append (List.cons_ne_nil d ds) all
        fun c mem => (head_exponentText plus exponent ends c mem).1

theorem IsWhole.not_minus {ds : List Char} (whole : IsWhole ds) (behind : List Char) :
    ds ++ rest ≠ '-' :: behind := by
  obtain ⟨all, rfl | ⟨c, cs, rfl, -⟩⟩ := whole
  · simp
  · intro same
    have digit := all c List.mem_cons_self
    rw [(List.cons.inj same).1] at digit
    exact absurd digit (by decide)

/-- The text of a numeral is taken apart into this numeral. -/
theorem numeral_text {n : Numeral} (regular : n.IsRegular) (ends : EndsNumber rest) :
    numeral (n.text plus ++ rest) = .ok (n, rest) := by
  have readWhole := wholeDigits_append regular.whole
    (endsDigits_fraction plus n.fraction n.exponent ends)
  have readFraction := fractionDigits_fractionText plus n.exponent regular.fraction ends
  have readExponent (small : Bool) := exponentPart_exponentText plus small regular.exponent ends
  obtain ⟨negative, whole, fraction, exponent⟩ := n
  rw [text, unsignedText, List.append_assoc, List.append_assoc, List.append_assoc, numeral.eq_def]
  split
  case h_1 sign s signed =>
    have same : (sign, s) = (negative,
        whole ++ (fractionText fraction ++ (exponentText plus exponent ++ rest))) := by
      rw [← signed]
      cases negative with
      | true => rfl
      | false =>
          split
          · exact absurd ‹_› (regular.whole.not_minus _)
          · rfl
    cases same
    simp only [readWhole, readFraction, readExponent, bind, Except.bind]

/-- The text of a numeral is read as the number that the numeral has. -/
theorem number_text [Rounding] {n : Numeral} (regular : n.IsRegular) (ends : EndsNumber rest) :
    number (n.text plus ++ rest) = match n.value? with
      | some value => .ok (value, rest)
      | none => stop .numberOutOfRange 0 rest := by
  rw [number, numeral_text plus regular ends]
  rfl

/-- What a number starts with. -/
def StartsNumber (c : Char) : Prop := c = '-' ∨ c.isDigit = true

instance (c : Char) : Decidable (StartsNumber c) := inferInstanceAs (Decidable (_ ∨ _))

theorem StartsNumber.ne {c d : Char} (start : StartsNumber c) (other : ¬ StartsNumber d) :
    c ≠ d := by
  rintro rfl
  exact other start

theorem starts_text {n : Numeral} (regular : n.IsRegular) :
    ∃ c cs, n.text plus = c :: cs ∧ StartsNumber c := by
  obtain ⟨c, cs, same⟩ := List.exists_cons_of_ne_nil regular.whole.ne_nil
  have digit : c.isDigit = true := regular.whole.digits c (same ▸ List.mem_cons_self)
  rw [text, unsignedText, same]
  cases n.negative with
  | true => exact ⟨'-', _, rfl, .inl rfl⟩
  | false => exact ⟨c, _, rfl, .inr digit⟩

end Json.Reader

/-! ## Integers -/

namespace Json.Numeral

/-- The numeral of an integer. -/
def ofInt (value : Int) : Numeral := ⟨decide (value < 0), Nat.toDigits 10 value.natAbs, [], none⟩

theorem isRegular_ofInt (value : Int) : (ofInt value).IsRegular :=
  ⟨Reader.isWhole_toDigits _, by simp [ofInt], by simp [ofInt]⟩

theorem integer?_ofInt {value : Int} (inRange : -2 ^ 63 ≤ value ∧ value < 2 ^ 64) :
    (ofInt value).integer? = some (.integer value inRange) := by
  have notMinusZero : value < 0 → Nat.toDigits 10 value.natAbs ≠ ['0'] := by
    intro negative zero
    obtain ⟨c, cs, lead, nonzero⟩ := Decimal.toDigits_lead (n := value.natAbs) (by omega)
    exact nonzero (List.cons.inj (lead.symm.trans zero)).1
  have same : (if decide (value < 0) = true
      then -(Decimal.ofDigits (Nat.toDigits 10 value.natAbs) : Int)
      else Decimal.ofDigits (Nat.toDigits 10 value.natAbs)) = value := by
    simp only [Decimal.ofDigits_toDigits, decide_eq_true_eq]
    omega
  unfold integer? ofInt
  rw [if_neg (by simpa using notMinusZero)]
  exact (congrArg Number.ofInt? same).trans (dif_pos inRange)

end Json.Numeral

namespace Json.Reader

open Numeral

variable (plus : Bool) {rest : List Char}

theorem integerText_eq (value : Int) :
    Decimal.integerText value = (ofInt value).text plus := by
  simp only [Decimal.integerText, text, unsignedText, ofInt, exponentText, fractionText,
    List.append_nil, decide_eq_true_eq]
  split <;> rfl

/-- An integer that a word holds is read back from its digits. -/
theorem number_integerText [Rounding] {value : Int} (inRange : -2 ^ 63 ≤ value ∧ value < 2 ^ 64)
    (ends : EndsNumber rest) :
    number (Decimal.integerText value ++ rest) = .ok (.integer value inRange, rest) := by
  rw [integerText_eq true, number_text true (isRegular_ofInt value) ends, value?,
    integer?_ofInt inRange]
  rfl

end Json.Reader

/-! ## Doubles -/

/-- The double next to what a numeral writes. -/
def Json.Numeral.nearest (n : Numeral) : Float := Decimal.toSignedFloat n.negative n.decimal

namespace Decimal

open Json (Numeral)
open Json.Reader (IsWhole)

theorem ofDigits_zeros_append (count : Nat) (ds : List Char) :
    ofDigits (List.replicate count '0' ++ ds) = ofDigits ds := by
  simp [ofDigits_eq, Nat.ofDigitChars_append]

theorem ofDigits_append_zeros (ds : List Char) (count : Nat) :
    ofDigits (ds ++ List.replicate count '0') = 10 ^ count * ofDigits ds := by
  simp [ofDigits_eq, Nat.ofDigitChars_append]

theorem isDigit_zeros_append {ds : List Char} (all : ∀ c ∈ ds, c.isDigit = true) (count : Nat) :
    ∀ c ∈ List.replicate count '0' ++ ds, c.isDigit = true := by
  simp only [List.mem_append, List.mem_replicate]
  rintro c (⟨-, rfl⟩ | mem)
  · rfl
  · exact all c mem

/-- A numeral with a fraction or an exponent whose digits mean a decimal. -/
structure Spells (negative : Bool) (n : Numeral) (d : Decimal) : Prop where
  sign : n.negative = negative
  regular : n.IsRegular
  notInteger : (!n.fraction.isEmpty || n.exponent.isSome) = true
  value : n.decimal.value = d.value

section Digits

variable {ds : List Char} (digits : IsWhole ds) (negative : Bool)

include digits

/-- All digits are behind the point. -/
theorem spells_below (count : Nat) :
    Spells negative ⟨negative, ['0'], List.replicate count '0' ++ ds, none⟩
      ⟨ofDigits ds, -(count + ds.length)⟩ where
  sign := rfl
  regular := ⟨⟨by simp, .inl rfl⟩, isDigit_zeros_append digits.digits count, by simp⟩
  notInteger := by simp [digits.ne_nil]
  value := by
    congr 1
    rw [Numeral.decimal, ofParts, ← List.append_assoc, ← List.replicate_one,
      List.replicate_append_replicate, ofDigits_zeros_append, List.length_append,
      List.length_replicate]
    simp

/-- The point is among the digits. -/
theorem spells_inside {point : Nat} (some : 0 < point) (inside : point < ds.length) :
    Spells negative ⟨negative, ds.take point, ds.drop point, none⟩
      ⟨ofDigits ds, point - ds.length⟩ where
  sign := rfl
  regular := by
    refine ⟨⟨fun c mem => digits.digits c (List.mem_of_mem_take mem), ?_⟩,
      fun c mem => digits.digits c (List.mem_of_mem_drop mem), by simp⟩
    obtain ⟨before, rfl⟩ := Nat.exists_eq_add_one_of_ne_zero (Nat.ne_of_gt some)
    obtain rfl | ⟨c, cs, rfl, nonzero⟩ := digits.lead
    · simp at inside
    · exact .inr ⟨c, _, rfl, nonzero⟩
  notInteger := by simp [inside]
  value := by
    congr 1
    rw [Numeral.decimal, ofParts, List.take_append_drop, List.length_drop, Option.getD_none]
    congr 1
    omega

/-- The point is behind the digits, and behind zeros up to it. -/
theorem spells_above {count : Nat} (lead : ds = ['0'] → count = 0) :
    Spells negative ⟨negative, ds ++ List.replicate count '0', ['0'], none⟩ ⟨ofDigits ds, count⟩ where
  sign := rfl
  regular := by
    refine ⟨⟨?_, ?_⟩, by simp, by simp⟩
    · intro c mem
      rw [List.mem_append, or_comm, ← List.mem_append] at mem
      exact isDigit_zeros_append digits.digits count c mem
    · obtain same | ⟨c, cs, rfl, nonzero⟩ := digits.lead
      · rw [lead same, same]
        exact .inl rfl
      · exact .inr ⟨c, _, rfl, nonzero⟩
  notInteger := rfl
  value := by
    rw [Numeral.decimal, ofParts, List.append_assoc, ← List.replicate_one,
      List.replicate_append_replicate, ofDigits_append_zeros, value, value, pow_succ,
      List.length_replicate, Option.getD_none]
    push_cast
    simp only [zpow_natCast, zpow_neg, zpow_one]
    field_simp

/-- The point is behind the first digit. -/
theorem spells_scientific {exponent : ℤ} (bounded : exponent.natAbs ≤ Json.Reader.maxExponent) :
    Spells negative ⟨negative, ds.take 1, ds.drop 1, some exponent⟩
      ⟨ofDigits ds, exponent + 1 - ds.length⟩ where
  sign := rfl
  regular := by
    refine ⟨⟨fun c mem => digits.digits c (List.mem_of_mem_take mem), ?_⟩,
      fun c mem => digits.digits c (List.mem_of_mem_drop mem), by simpa using bounded⟩
    obtain rfl | ⟨c, cs, rfl, nonzero⟩ := digits.lead
    · exact .inl rfl
    · exact .inr ⟨c, _, rfl, nonzero⟩
  notInteger := by simp
  value := by
    congr 1
    have some := List.length_pos_iff.mpr digits.ne_nil
    rw [Numeral.decimal, ofParts, List.take_append_drop, List.length_drop, Option.getD_some]
    congr 1
    omega

end Digits

section Layout

variable {ds : List Char} (digits : IsWhole ds) (negative : Bool)

include digits

theorem exists_spells_positional {layout : Layout} (keeps : layout.keepsFraction = true)
    {exponent : ℤ} (lead : ds = ['0'] → exponent = 0) :
    ∃ n : Numeral, Spells negative n ⟨ofDigits ds, exponent⟩ ∧
      layout.positionalText ds (ds.length + exponent) = n.unsignedText layout.plus := by
  unfold Layout.positionalText
  split
  · obtain ⟨count, rfl⟩ : ∃ count : ℕ, exponent = -(count + ds.length) :=
      ⟨(-(ds.length + exponent)).toNat, by omega⟩
    refine ⟨_, spells_below digits negative count, ?_⟩
    have zeros : (-(ds.length + -(count + ds.length : ℤ))).toNat = count := by omega
    rw [zeros, Numeral.unsignedText, Numeral.fractionText_of_ne_nil (by simp [digits.ne_nil])]
    simp [Numeral.exponentText]
  · split
    · obtain ⟨point, rfl⟩ : ∃ point : ℕ, exponent = point - ds.length :=
        ⟨(ds.length + exponent).toNat, by omega⟩
      refine ⟨_, spells_inside digits negative (by omega : 0 < point) (by omega), ?_⟩
      have place : (ds.length + (point - ds.length : ℤ)).toNat = point := by omega
      rw [place, Numeral.unsignedText, Numeral.fractionText_of_ne_nil (by simp; omega)]
      simp [Numeral.exponentText]
    · obtain ⟨count, rfl⟩ : ∃ count : ℕ, exponent = count := ⟨exponent.toNat, by omega⟩
      refine ⟨_, spells_above digits negative (fun zero => by have := lead zero; omega), ?_⟩
      have zeros : (ds.length + count - ds.length : ℤ).toNat = count := by omega
      rw [zeros, Numeral.unsignedText]
      simp [Numeral.exponentText, Numeral.fractionText]

theorem exists_spells_scientific (layout : Layout) {exponent : ℤ}
    (bounded : (ds.length + exponent - 1).natAbs ≤ Json.Reader.maxExponent) :
    ∃ n : Numeral, Spells negative n ⟨ofDigits ds, exponent⟩ ∧
      layout.exponentText ds (ds.length + exponent) = n.unsignedText layout.plus := by
  have spells := spells_scientific digits negative bounded
  rw [sub_add_cancel, add_sub_cancel_left] at spells
  refine ⟨_, spells, ?_⟩
  have fraction : (if (ds.drop 1).isEmpty then [] else '.' :: ds.drop 1)
      = Numeral.fractionText (ds.drop 1) := by
    cases ds.drop 1 <;> rfl
  unfold Layout.exponentText
  dsimp only
  rw [fraction, Numeral.unsignedText, Numeral.exponentText]
  simp only [List.append_assoc, List.cons_append]

end Layout

/-- A layout that keeps the fraction writes a numeral, of the value that the digits have. -/
theorem exists_spells {layout : Layout} (keeps : layout.keepsFraction = true) (negative : Bool)
    {d : Decimal} (lead : d.significand = 0 → d.exponent = 0)
    (bounded : (d.point - 1).natAbs ≤ Json.Reader.maxExponent) :
    ∃ n : Numeral, Spells negative n d ∧ layout.decimalText d = n.unsignedText layout.plus := by
  have digits := Json.Reader.isWhole_toDigits d.significand
  have reads := ofDigits_toDigits d.significand
  have lead (zero : Nat.toDigits 10 d.significand = ['0']) : d.exponent = 0 := by
    apply lead
    rw [← reads, zero]
    rfl
  have positional := exists_spells_positional digits negative keeps lead
  have scientific := exists_spells_scientific digits negative layout bounded
  rw [reads] at positional scientific
  unfold Layout.decimalText
  dsimp only
  split
  · exact positional
  · split
    · exact positional
    · exact scientific

/-- In a layout that keeps the fraction a finite double is written as a numeral that is no integer, and
the double next to the numeral is the one that was written. -/
theorem render_eq {layout : Layout} (keeps : layout.keepsFraction = true) {x : Float}
    (finite : x.isFinite = true) :
    ∃ n : Numeral, n.IsRegular ∧ n.integer? = none ∧ layout.render x = n.text layout.plus ∧
      n.nearest = x := by
  have digits := reads_shortest layout.tie finite
  have bounded : ((shortest layout.tie x).point - 1).natAbs ≤ Json.Reader.maxExponent := by
    have least := digits.least
    have most := digits.most
    unfold Json.Reader.maxExponent
    omega
  obtain ⟨n, spells, written⟩ := exists_spells keeps (Double.isNegative x) digits.zero bounded
  refine ⟨n, spells.regular, ?_, ?_, ?_⟩
  · rw [Numeral.integer?, spells.notInteger]
    rfl
  · rw [Layout.render, Double.isNaN_of_isFinite finite, Double.isInf_of_isFinite finite,
      Numeral.text, ← written, spells.sign]
    rfl
  · show toSignedFloat n.negative n.decimal = x
    rw [spells.sign, toSignedFloat, toFloat_congr spells.value, digits.reads]
    split
    · exact Double.neg_abs ‹_›
    · exact Double.abs_eq_self (by simpa using ‹¬ Double.isNegative x = true›)

end Decimal

end JsonRules
