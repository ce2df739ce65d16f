/-
# JsonRules.Proofs.Division -- division beside the remainder

Division and remainder are worked out apart from each other, on signed words or on unsigned ones,
and each has to look after a divisor of zero and after the one quotient of signed words that no
signed word holds (`Word.Overflows`).  Still they fit together: the remainder is always an integer,
namely what division toward zero leaves, and the quotient is an integer exactly if nothing is left,
but for the quotient that overflows.  All other quotients are made of doubles.
-/
import JsonRules.Libraries
import JsonRules.Proofs.Meeting

namespace JsonRules

set_option autoImplicit false

section

-- Powers are the built-in ones, also where Mathlib is imported.
attribute [local instance (high)] instPowNat

-- Whether a number fits a word is not worked out: the bounds are too large to count to.
attribute [local irreducible] Word.int? Word.uint?

/-! ## Signed words that overflow -/

/-- The least signed word divided by minus one. -/
def Word.Overflows (m n : Int) : Prop := m = -2 ^ (63 : Nat) ∧ n = -1

instance (m n : Int) : Decidable (Word.Overflows m n) :=
  inferInstanceAs (Decidable (m = -2 ^ (63 : Nat) ∧ n = -1))

theorem Word.toInt_eq_zero {w : Int64} : w.toInt = 0 ↔ w = 0 := by
  rw [← Int64.toInt_inj]
  rfl

theorem Word.natCast_toNat_eq_zero {w : UInt64} : (w.toNat : Int) = 0 ↔ w = 0 := by
  rw [← UInt64.toNat_inj]
  exact Int.natCast_inj

theorem Word.overflows_toInt (a b : Int64) :
    Overflows a.toInt b.toInt ↔ a = Int64.minValue ∧ b = -1 := by
  unfold Overflows
  rw [← Int64.toInt_inj, ← Int64.toInt_inj]
  rfl

/-! ## Quotients and remainders of pairs -/

namespace IntegerPair

variable {pair : IntegerPair}

theorem remainder_zero (zero : pair.second = 0) : pair.remainder = .null := by
  cases pair with
  | int a b =>
      have divisor : b = 0 := Word.toInt_eq_zero.mp zero
      rw [remainder, if_pos divisor]
  | uint a b =>
      have divisor : b = 0 := Word.natCast_toNat_eq_zero.mp zero
      rw [remainder, if_pos divisor]

/-- The remainder is an integer unless the divisor is zero. -/
theorem integer?_remainder_of_ne (nonzero : pair.second ≠ 0) :
    pair.remainder.integer? = some (pair.first.tmod pair.second) := by
  cases pair with
  | int a b =>
      have divisor : b ≠ 0 := mt Word.toInt_eq_zero.mpr nonzero
      rw [remainder, if_neg divisor, ← Int64.toInt_mod, Int64.ofInt_toInt]
      exact congrArg some (Int64.toInt_mod a b)
  | uint a b =>
      have divisor : b ≠ 0 := mt Word.natCast_toNat_eq_zero.mpr nonzero
      rw [remainder, if_neg divisor, Scalar.integer?_ofUInt, UInt64.toNat_mod]
      exact congrArg some (Int.ofNat_tmod a.toNat b.toNat)

end IntegerPair

namespace NumberPair

variable {pair : IntegerPair}

theorem quotient_zero (zero : pair.second = 0) : quotient (.integers pair) = .null := by
  cases pair with
  | int a b =>
      have divisor : b = 0 := Word.toInt_eq_zero.mp zero
      rw [quotient, if_pos divisor]
  | uint a b =>
      have divisor : b = 0 := Word.natCast_toNat_eq_zero.mp zero
      rw [quotient, if_pos divisor]

/-- Where nothing is left, the quotient is an integer unless it overflows. -/
theorem integer?_quotient (nonzero : pair.second ≠ 0)
    (whole : pair.first.tmod pair.second = 0)
    (fits : ¬ Word.Overflows pair.first pair.second) :
    (quotient (.integers pair)).integer? = some (pair.first.tdiv pair.second) := by
  cases pair with
  | int a b =>
      have divisor : b ≠ 0 := mt Word.toInt_eq_zero.mpr nonzero
      have result := Word.toInt_quotient (mt (Word.overflows_toInt a b).mpr fits)
      change a.toInt.tmod b.toInt = 0 at whole
      rw [quotient, if_neg divisor, if_pos whole, Word.int?_eq_some_iff.mpr result]
      exact congrArg some result
  | uint a b =>
      have divisor : b ≠ 0 := mt Word.natCast_toNat_eq_zero.mpr nonzero
      have rest : a % b = 0 := by
        apply UInt64.toNat_inj.mp
        rw [UInt64.toNat_mod]
        exact Int.natCast_inj.mp ((Int.ofNat_tmod a.toNat b.toNat).trans whole)
      rw [quotient, if_neg divisor, if_pos rest, Scalar.integer?_ofUInt, UInt64.toNat_div]
      exact congrArg some (Int.ofNat_tdiv a.toNat b.toNat)

/-- Where something is left, or the quotient overflows, doubles are divided. -/
theorem quotient_double (nonzero : pair.second ≠ 0)
    (parted : pair.first.tmod pair.second ≠ 0 ∨ Word.Overflows pair.first pair.second) :
    quotient (.integers pair)
      = .double (Double.ofInt pair.first / Double.ofInt pair.second) := by
  cases pair with
  | int a b =>
      have divisor : b ≠ 0 := mt Word.toInt_eq_zero.mpr nonzero
      rw [quotient, if_neg divisor]
      rcases parted with rest | ⟨least, minus⟩
      · change ¬ a.toInt.tmod b.toInt = 0 at rest
        rw [if_neg rest]
        rfl
      · change a.toInt = _ at least
        change b.toInt = _ at minus
        have large : Word.int? (a.toInt.tdiv b.toInt) = none := by
          rw [least, minus]
          exact Word.int?_eq_none_iff.mpr (.inr (by decide))
        rw [large, ite_self]
        rfl
  | uint a b =>
      have divisor : b ≠ 0 := mt Word.natCast_toNat_eq_zero.mpr nonzero
      have rest : ¬ a % b = 0 := by
        intro whole
        rcases parted with rest | ⟨-, minus⟩
        · apply rest
          refine (Int.ofNat_tmod a.toNat b.toNat).symm.trans ?_
          rw [← UInt64.toNat_mod, whole]
          rfl
        · change (b.toNat : Int) = -1 at minus
          omega
      rw [quotient, if_neg divisor, if_neg rest]
      rfl

end NumberPair

/-! ## Quotients and remainders of integers -/

namespace Meaning

variable {a b : Value} {m n : Int}

theorem divide_zero (first : a.integer? = some m) (second : b.integer? = some 0)
    (close : ¬ Coercion.Apart m 0) : combine .divide a b = .ok .null := by
  obtain ⟨pair, -, zero, made⟩ :=
    Value.exists_combine (.arithmetic .divide) NumberPair.quotient first second close
  rw [NumberPair.quotient_zero zero] at made
  exact made

theorem remainder_zero (first : a.integer? = some m) (second : b.integer? = some 0)
    (close : ¬ Coercion.Apart m 0) : combine .remainder a b = .ok .null := by
  obtain ⟨pair, -, zero, made⟩ := Value.exists_remainder first second close
  rw [IntegerPair.remainder_zero zero] at made
  exact made

theorem exists_combine_remainder (first : a.integer? = some m) (second : b.integer? = some n)
    (close : ¬ Coercion.Apart m n) (nonzero : n ≠ 0) :
    ∃ value, combine .remainder a b = .ok value ∧ value.integer? = some (m.tmod n) := by
  obtain ⟨pair, rfl, rfl, made⟩ := Value.exists_remainder first second close
  exact ⟨_, made, IntegerPair.integer?_remainder_of_ne nonzero⟩

theorem exists_combine_divide (first : a.integer? = some m) (second : b.integer? = some n)
    (close : ¬ Coercion.Apart m n) (nonzero : n ≠ 0) (whole : m.tmod n = 0)
    (fits : ¬ Word.Overflows m n) :
    ∃ value, combine .divide a b = .ok value ∧ value.integer? = some (m.tdiv n) := by
  obtain ⟨pair, rfl, rfl, made⟩ :=
    Value.exists_combine (.arithmetic .divide) NumberPair.quotient first second close
  exact ⟨_, made, NumberPair.integer?_quotient nonzero whole fits⟩

theorem combine_divide_double (first : a.integer? = some m) (second : b.integer? = some n)
    (close : ¬ Coercion.Apart m n) (nonzero : n ≠ 0)
    (parted : m.tmod n ≠ 0 ∨ Word.Overflows m n) :
    combine .divide a b = .ok (.double (Double.ofInt m / Double.ofInt n)) := by
  obtain ⟨pair, rfl, rfl, made⟩ :=
    Value.exists_combine (.arithmetic .divide) NumberPair.quotient first second close
  rw [NumberPair.quotient_double nonzero parted] at made
  exact made

end Meaning

variable [PatternEngine]

namespace Expr

/-- **Division fits the remainder**, for two integers that meet, in whatever kinds.  Both are null
if the divisor is zero.  Otherwise the remainder is the integer that division toward zero leaves,
and the quotient is an integer exactly if nothing is left and it does not overflow; if it is none,
it is the quotient of the doubles nearest to the operands. -/
theorem division_fits_remainder (scope : Scope) {x y : Expr} {m n : Int}
    (left : x.eval.Gives scope m) (right : y.eval.Gives scope n) (close : ¬ Coercion.Apart m n) :
    (n = 0 →
      ((call (.arithmetic .divide) [x, y]).eval scope).outcome = .ok .null ∧
      ((call (.arithmetic .remainder) [x, y]).eval scope).outcome = .ok .null) ∧
    (n ≠ 0 → m = n * m.tdiv n + m.tmod n ∧
      (m.tmod n).natAbs < n.natAbs ∧ (m.tmod n = 0 ∨ (m.tmod n).sign = m.sign) ∧
      (call (.arithmetic .remainder) [x, y]).eval.Gives scope (m.tmod n) ∧
      if m.tmod n = 0 ∧ ¬ Word.Overflows m n then
        (call (.arithmetic .divide) [x, y]).eval.Gives scope (m.tdiv n)
      else
        ((call (.arithmetic .divide) [x, y]).eval scope).outcome
          = .ok (.double (Double.ofInt m / Double.ofInt n))) := by
  obtain ⟨a, ranLeft, first⟩ := left
  obtain ⟨b, ranRight, second⟩ := right
  simp only [Meaning.Gives, outcome_arithmetic _ ranLeft ranRight]
  constructor
  · rintro rfl
    exact ⟨Meaning.divide_zero first second close, Meaning.remainder_zero first second close⟩
  · intro nonzero
    refine ⟨(Int.mul_tdiv_add_tmod m n).symm, ?_, ?_, ?_, ?_⟩
    · rw [Int.natAbs_tmod]
      exact Nat.mod_lt _ (Int.natAbs_pos.mpr nonzero)
    · by_cases divides : n ∣ m
      · exact .inl (Int.tmod_eq_zero_of_dvd divides)
      · exact .inr (by rw [Int.sign_tmod, if_neg divides])
    · exact Meaning.exists_combine_remainder first second close nonzero
    · by_cases whole : m.tmod n = 0 ∧ ¬ Word.Overflows m n
      · rw [if_pos whole]
        exact Meaning.exists_combine_divide first second close nonzero whole.1 whole.2
      · have parted : m.tmod n ≠ 0 ∨ Word.Overflows m n := by
          rwa [not_and_or, not_not] at whole
        rw [if_neg whole]
        exact Meaning.combine_divide_double first second close nonzero parted

end Expr

end

namespace Expr

/-- A negative integer and an unsigned one of which something is left, and two unsigned ones, of
different kinds, of which nothing is. -/
theorem division_fits_remainder_mixed :
    let scope : Scope := .element .null
    let a : Expr := literal (.int (-7))
    let b : Expr := literal (.uint 2)
    let c : Expr := literal (.uint 18446744073709551615)
    let d : Expr := literal (.int 5)
    (a.eval.Gives scope (-7) ∧ b.eval.Gives scope 2 ∧ ¬ Coercion.Apart (-7) 2 ∧
      (call (.arithmetic .remainder) [a, b]).eval.Gives scope (-1) ∧
      ((call (.arithmetic .divide) [a, b]).eval scope).outcome
        = .ok (.double (Double.ofInt (-7) / Double.ofInt 2))) ∧
    c.eval.Gives scope 18446744073709551615 ∧ d.eval.Gives scope 5 ∧
      ¬ Coercion.Apart 18446744073709551615 5 ∧
      (call (.arithmetic .remainder) [c, d]).eval.Gives scope 0 ∧
      (call (.arithmetic .divide) [c, d]).eval.Gives scope 3689348814741910323 := by
  intro scope a b c d
  have first : a.eval.Gives scope (-7) := ⟨_, rfl, by decide +kernel⟩
  have second : b.eval.Gives scope 2 := ⟨_, rfl, by decide +kernel⟩
  have third : c.eval.Gives scope 18446744073709551615 := ⟨_, rfl, by decide +kernel⟩
  have fourth : d.eval.Gives scope 5 := ⟨_, rfl, by decide +kernel⟩
  have close : ¬ Coercion.Apart (-7) 2 := by decide
  have close' : ¬ Coercion.Apart 18446744073709551615 5 := by decide
  obtain ⟨-, -, -, rest, quotient⟩ :=
    (division_fits_remainder scope first second close).2 (by decide)
  obtain ⟨-, -, -, rest', quotient'⟩ :=
    (division_fits_remainder scope third fourth close').2 (by decide)
  rw [if_neg (by decide)] at quotient
  rw [if_pos (by decide)] at quotient'
  exact ⟨⟨first, second, close, rest, quotient⟩, third, fourth, close', rest', quotient'⟩

/-- The least signed word is divided by minus one without a rest, but the quotient is no integer. -/
theorem division_overflows :
    let x : Expr := literal (.int (-9223372036854775808))
    let y : Expr := literal (.int (-1))
    let scope : Scope := .element .null
    ¬ Coercion.Apart (-9223372036854775808) (-1) ∧
      ((call (.arithmetic .remainder) [x, y]).eval scope).outcome = .ok (.int 0) ∧
      ((call (.arithmetic .divide) [x, y]).eval scope).outcome
        = .ok (.double 9223372036854775808) ∧
      ∀ q, ¬ (call (.arithmetic .divide) [x, y]).eval.Gives scope q := by
  intro x y scope
  have divided : ((call (.arithmetic .divide) [x, y]).eval scope).outcome
      = .ok (.double 9223372036854775808) := by decide +kernel
  refine ⟨by decide, by decide +kernel, divided, ?_⟩
  rintro q ⟨value, ended, integer⟩
  cases ended.symm.trans divided
  cases integer

end Expr

end JsonRules
