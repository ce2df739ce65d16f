/-
# JsonRules.Proofs.Signed -- results that a signed word holds

Whatever kinds two integers have, their sum, their product and their difference are signed if a
signed word holds them.  Between unsigned words this is a matter of coming back: a sum or a product
is fitted into an unsigned word first, and a negative difference is made from its magnitude, which
has to be a signed word itself.

That leaves out one number.  The magnitude of the least signed word is too large for a signed word,
so a difference that is this number is a double if the operands met as unsigned words
(`Word.Missed`).  Every other difference that a signed word holds is signed
(`NumberPair.difference_signed`).
-/
import JsonRules.Libraries
import JsonRules.Proofs.Meeting

namespace JsonRules

set_option autoImplicit false

section

-- Powers are the built-in ones, also where Mathlib is imported.
attribute [local instance (high)] instPowNat

-- Whether a number fits a word is not worked out: the bounds are too large to count to.
attribute [local irreducible] Word.int? Word.uint?

/-! ## Results for a pair of words -/

/-- The difference of the two integers is the least signed word, though none of them is negative. -/
def Word.Missed (m n : Int) : Prop := 0 ≤ m ∧ m - n = -2 ^ (63 : Nat)

instance (m n : Int) : Decidable (Word.Missed m n) :=
  inferInstanceAs (Decidable (0 ≤ m ∧ m - n = -2 ^ (63 : Nat)))

theorem Scalar.ofUInt_eq_int {u : UInt64} {w : Int64} (same : w.toInt = u.toNat) :
    ofUInt u = int w := by
  unfold ofUInt
  rw [Word.int?_eq_some_iff.mpr same]
  rfl

namespace NumberPair

variable {pair : IntegerPair} {w : Int64}

/-- An operation that leads from numbers that are not negative to such numbers has signed results
wherever a signed word holds them. -/
theorem exact_signed {whole : Int → Int → Int} (double : Float → Float → Float)
    (nonnegative : ∀ a b : Int, 0 ≤ a → 0 ≤ b → 0 ≤ whole a b)
    (same : w.toInt = whole pair.first pair.second) :
    exact whole double (.integers pair) = .int w := by
  cases pair with
  | int a b =>
      have fits : Word.int? (whole a.toInt b.toInt) = some w := Word.int?_eq_some_iff.mpr same
      rw [exact, fits]
  | uint a b =>
      have positive : 0 ≤ whole a.toNat b.toNat := nonnegative _ _ (by omega) (by omega)
      have bounds := Word.toInt_bounds w
      cases fits : Word.uint? (whole a.toNat b.toNat) with
      | none =>
          have outside := Word.uint?_eq_none_iff.mp fits
          have inside : w.toInt = whole a.toNat b.toNat := same
          omega
      | some u =>
          have back : w.toInt = u.toNat := same.trans (Word.uint?_eq_some_iff.mp fits).symm
          rw [exact, fits]
          exact Scalar.ofUInt_eq_int back

/-- A difference that a signed word holds is signed, but for the one that is missed. -/
theorem difference_signed (same : w.toInt = pair.first - pair.second) :
    difference (.integers pair)
      = if Word.Missed pair.first pair.second
        then .double (Double.ofInt pair.first - Double.ofInt pair.second) else .int w := by
  have bounds := Word.toInt_bounds w
  cases pair with
  | int a b =>
      have large := Word.toInt_bounds b
      have kept : ¬ Word.Missed a.toInt b.toInt := by
        rintro ⟨nonnegative, least⟩
        omega
      have fits : Word.int? (a.toInt - b.toInt) = some w := Word.int?_eq_some_iff.mpr same
      show exact (· - ·) (· - ·) (.integers (.int a b)) = _
      rw [exact, fits]
      exact (if_neg kept).symm
  | uint a b =>
      change w.toInt = (a.toNat : Int) - b.toNat at same
      change _ = if Word.Missed a.toNat b.toNat then _ else _
      rw [difference]
      cases fits : Word.uint? ((a.toNat : Int) - b.toNat) with
      | some u =>
          have exact := Word.uint?_eq_some_iff.mp fits
          have kept : ¬ Word.Missed a.toNat b.toNat := by
            rintro ⟨-, least⟩
            omega
          rw [if_neg kept]
          exact Scalar.ofUInt_eq_int (by omega)
      | none =>
          obtain ⟨less, -, -⟩ := unsignedDifference?_swap fits
          cases magnitude : Word.int? ((b.toNat : Int) - a.toNat) with
          | some n =>
              have exact := Word.int?_eq_some_iff.mp magnitude
              have most := Word.toInt_bounds n
              have kept : ¬ Word.Missed a.toNat b.toNat := by
                rintro ⟨-, least⟩
                omega
              have opposite : (-n).toInt = -n.toInt := Word.toInt_neg_of_pos (by omega)
              have back : -n = w := Int64.toInt_inj.mp (by omega)
              rw [if_neg kept]
              exact congrArg Scalar.int back
          | none =>
              have large := Word.int?_eq_none_iff.mp magnitude
              have missed : Word.Missed a.toNat b.toNat := ⟨by omega, by omega⟩
              rw [if_pos missed]
              rfl

end NumberPair

/-! ## Results of expressions -/

variable [PatternEngine]

namespace Expr

variable {scope : Scope} {x y : Expr} {m n : Int}

/-- Sums and products: what is joined is exact, and never negative where the operands are not. -/
theorem outcome_exact (step : Fold) {double : Float → Float → Float} (numeric : step.IsNumeric)
    (joins : ∀ a b, Meaning.join step a b
      = Value.combine (.fold step) (NumberPair.exact step.whole double) a b)
    (nonnegative : ∀ a b : Int, 0 ≤ a → 0 ≤ b → 0 ≤ step.whole a b)
    (left : x.eval.Gives scope m) (right : y.eval.Gives scope n) (close : ¬ Coercion.Apart m n)
    {w : Int64} (same : w.toInt = step.whole m n) :
    ((call (.fold step) [x, y]).eval scope).outcome = .ok (.int w) := by
  obtain ⟨a, ranLeft, first⟩ := left
  obtain ⟨b, ranRight, second⟩ := right
  rw [outcome_fold step ranLeft ranRight (Meaning.convert_integer numeric first)
    (Meaning.convert_integer numeric second), joins]
  obtain ⟨pair, rfl, rfl, made⟩ := Value.exists_combine (.fold step)
    (NumberPair.exact step.whole double) first second close
  rw [made, NumberPair.exact_signed double nonnegative same]

omit [PatternEngine] in
theorem combine_minus {a b : Value} (first : a.integer? = some m) (second : b.integer? = some n)
    (close : ¬ Coercion.Apart m n) {w : Int64} (same : w.toInt = m - n) :
    Meaning.combine .minus a b
      = .ok (if Word.Missed m n then .double (Double.ofInt m - Double.ofInt n) else .int w) := by
  obtain ⟨pair, rfl, rfl, made⟩ :=
    Value.exists_combine (.arithmetic .minus) NumberPair.difference first second close
  refine made.trans ?_
  rw [NumberPair.difference_signed same]
  split <;> rfl

/-- **Results that fit are signed.**  Of two integers that meet, in whatever kinds, a sum or a
product that a signed word holds is that signed word, and so is a difference, also from zero where
there is no left operand.  The exception is the difference that is the least signed word and is
taken between integers of which none is negative: it is made of doubles. -/
theorem fitting_results_are_signed (scope : Scope) {x y : Expr} {m n : Int}
    (left : x.eval.Gives scope m) (right : y.eval.Gives scope n) (close : ¬ Coercion.Apart m n) :
    (∀ w : Int64, w.toInt = m + n →
      ((call (.fold .sum) [x, y]).eval scope).outcome = .ok (.int w)) ∧
    (∀ w : Int64, w.toInt = m * n →
      ((call (.fold .product) [x, y]).eval scope).outcome = .ok (.int w)) ∧
    (∀ w : Int64, w.toInt = m - n →
      ((call (.arithmetic .minus) [x, y]).eval scope).outcome
        = .ok (if Word.Missed m n then .double (Double.ofInt m - Double.ofInt n) else .int w)) ∧
    ∀ w : Int64, w.toInt = -n →
      ((call (.arithmetic .minus) [y]).eval scope).outcome
        = .ok (if Word.Missed 0 n then .double (Double.ofInt 0 - Double.ofInt n) else .int w) := by
  refine ⟨?_, ?_, ?_, ?_⟩
  · intro w same
    refine outcome_exact .sum trivial (fun _ _ => rfl) ?_ left right close same
    intro a b nonnegative nonnegative'
    exact Int.add_nonneg nonnegative nonnegative'
  · intro w same
    refine outcome_exact .product trivial (fun _ _ => rfl) ?_ left right close same
    intro a b nonnegative nonnegative'
    exact Int.mul_nonneg nonnegative nonnegative'
  · intro w same
    obtain ⟨a, ranLeft, first⟩ := left
    obtain ⟨b, ranRight, second⟩ := right
    rw [outcome_arithmetic .minus ranLeft ranRight]
    exact combine_minus first second close same
  · intro w same
    obtain ⟨b, ranRight, second⟩ := right
    rw [outcome_arithmetic_single .minus ranRight]
    refine combine_minus rfl second (Coercion.not_apart_zero n) ?_
    rw [same]
    exact (Int.zero_sub n).symm

end Expr

end

namespace Expr

/-- The greatest signed word and an unsigned word that is far above it: their difference is one
above the difference that is missed. -/
theorem fitting_results_are_signed_wide :
    let x : Expr := literal (.int 9223372036854775807)
    let y : Expr := literal (.uint 18446744073709551614)
    let scope : Scope := .element .null
    x.eval.Gives scope 9223372036854775807 ∧ y.eval.Gives scope 18446744073709551614 ∧
      ¬ Coercion.Apart 9223372036854775807 18446744073709551614 ∧
      ((call (.arithmetic .minus) [x, y]).eval scope).outcome
        = .ok (.int (-9223372036854775807)) := by
  intro x y scope
  have left : x.eval.Gives scope 9223372036854775807 := ⟨_, rfl, by decide +kernel⟩
  have right : y.eval.Gives scope 18446744073709551614 := ⟨_, rfl, by decide +kernel⟩
  have close : ¬ Coercion.Apart 9223372036854775807 18446744073709551614 := by decide
  obtain ⟨-, -, difference, -⟩ := fitting_results_are_signed scope left right close
  exact ⟨left, right, close, difference (-9223372036854775807) (by decide +kernel)⟩

/-- The opposite of the least integer that is unsigned is the least signed word, and is given as a
double. -/
theorem opposite_of_least_unsigned_is_double :
    ¬ Coercion.Apart 0 9223372036854775808 ∧ Int64.minValue.toInt = 0 - 9223372036854775808 ∧
      ((call (.arithmetic .minus) [literal (.uint 9223372036854775808)]).eval
        (.element .null)).outcome = .ok (.double (-9223372036854775808)) := by
  refine ⟨by decide, by decide, by decide +kernel⟩

end Expr

end JsonRules
