/-
# JsonRules.Proofs.Integers -- integer results are exact

A result of arithmetic that is an integer is the number that arithmetic on whole numbers gives for
the operands, and then all operands are integers too.  Of two numbers this is said for each
operation (`Arithmetic.Gives`, `Fold.whole`); nothing else leads to an integer, since what has once
become a double, or null, stays one.  So it holds of a fold of any length, by induction over its
operands (`Meaning.integer?_foldlM`).

That the operations are done on words changes nothing: no step of them overflows unnoticed or
divides by zero.
-/
import JsonRules.Libraries
import JsonRules.Proofs.CanonicalRuns
import JsonRules.Proofs.Outcomes
import JsonRules.Proofs.Words

namespace JsonRules

set_option autoImplicit false

section

attribute [local irreducible] Word.int? Word.uint?

/-! ## Operations on whole numbers -/

/-- The integer is what the operation gives for two integers: the difference, the quotient without a
remainder, or the remainder of division toward zero. -/
def Arithmetic.Gives : Arithmetic → Int → Int → Int → Prop
  | minus, a, b, n => n = a - b
  | divide, a, b, n => b ≠ 0 ∧ n * b = a
  | remainder, a, b, n => b ≠ 0 ∧ n = a.tmod b

/-- How a fold joins two integers. -/
def Fold.whole : Fold → Int → Int → Int
  | sum, a, b => a + b
  | product, a, b => a * b
  | least, a, b => min a b
  | greatest, a, b => max a b
  | concat, a, _ => a
  | merge, a, _ => a

/-- What a fold makes of integers, if it makes an integer of them. -/
def Fold.total? : Fold → List Int → Option Int
  | sum, numbers => some (numbers.foldl (· + ·) 0)
  | product, numbers => some (numbers.foldl (· * ·) 1)
  | least, numbers => numbers.min?
  | greatest, numbers => numbers.max?
  | concat, _ => none
  | merge, _ => none

/-- The fold works on numbers. -/
def Fold.IsNumeric : Fold → Prop
  | sum | product | least | greatest => True
  | concat | merge => False

/-- What is made of integers is made by joining them one after another. -/
theorem Fold.total?_cons {step : Fold} (numeric : step.IsNumeric) (m : Int) (numbers : List Int) :
    step.total? (m :: numbers) = some (numbers.foldl step.whole m) := by
  cases step with
  | sum =>
      refine congrArg some ?_
      rw [List.foldl_cons, Int.zero_add]
      rfl
  | product =>
      refine congrArg some ?_
      rw [List.foldl_cons, Int.one_mul]
      rfl
  | least => exact List.min?_cons'
  | greatest => exact List.max?_cons'
  | concat | merge => cases numeric

/-! ## Integers made from pairs -/

theorem Scalar.integer?_ofUInt (w : UInt64) : (ofUInt w).integer? = some (w.toNat : Int) := by
  unfold ofUInt
  cases fits : Word.int? w.toNat with
  | none => rfl
  | some n =>
      have same : n.toInt = w.toNat := Word.int?_eq_some_iff.mp fits
      exact congrArg some same

namespace NumberPair

/-- Whatever makes an integer of a pair of numbers, does so by a relation between integers. -/
def Makes (result : NumberPair → Scalar) (relation : Int → Int → Int → Prop) : Prop :=
  ∀ pair n, (result pair).integer? = some n →
    ∃ integers, pair = .integers integers ∧ relation integers.first integers.second n

theorem makes_exact (whole : Int → Int → Int) (double : Float → Float → Float) :
    Makes (exact whole double) fun a b n => n = whole a b := by
  intro pair n made
  unfold exact at made
  split at made
  · rename_i a b
    refine ⟨.int a b, rfl, ?_⟩
    cases fits : Word.int? (whole a.toInt b.toInt) with
    | none =>
        rw [fits] at made
        cases made
    | some w =>
        rw [fits] at made
        cases made
        exact Word.int?_eq_some_iff.mp fits
  · rename_i a b
    refine ⟨.uint a b, rfl, ?_⟩
    cases fits : Word.uint? (whole a.toNat b.toNat) with
    | none =>
        rw [fits] at made
        cases made
    | some w =>
        simp only [fits, Scalar.integer?_ofUInt, Option.some.injEq] at made
        rw [← made]
        exact Word.uint?_eq_some_iff.mp fits
  · cases made

theorem makes_difference : Makes difference fun a b n => n = a - b := by
  intro pair n made
  unfold difference at made
  split at made
  · rename_i a b
    refine ⟨.uint a b, rfl, ?_⟩
    show n = a.toNat - b.toNat
    cases fits : Word.uint? ((a.toNat : Int) - b.toNat) with
    | some w =>
        simp only [fits, Scalar.integer?_ofUInt, Option.some.injEq] at made
        rw [← made]
        exact Word.uint?_eq_some_iff.mp fits
    | none =>
        simp only [fits] at made
        cases signed : Word.int? ((b.toNat : Int) - a.toNat) with
        | none =>
            rw [signed] at made
            cases made
        | some w =>
            obtain ⟨less, -, -⟩ := unsignedDifference?_swap fits
            have magnitude : w.toInt = b.toNat - a.toNat := Word.int?_eq_some_iff.mp signed
            rw [signed] at made
            have opposite : (-w).toInt = -w.toInt := Word.toInt_neg_of_pos (by omega)
            have same : (-w).toInt = n := Option.some.inj made
            omega
  · exact makes_exact _ _ pair n made

theorem makes_quotient : Makes quotient fun a b n => b ≠ 0 ∧ n * b = a := by
  intro pair n made
  unfold quotient at made
  split at made
  · rename_i a b
    refine ⟨.int a b, rfl, ?_⟩
    split at made
    · cases made
    · rename_i nonzero
      refine ⟨Word.toInt_ne_zero nonzero, ?_⟩
      show n * b.toInt = a.toInt
      by_cases whole : a.toInt.tmod b.toInt = 0
      · rw [if_pos whole] at made
        cases fits : Word.int? (a.toInt.tdiv b.toInt) with
        | none =>
            rw [fits] at made
            cases made
        | some w =>
            rw [fits] at made
            cases made
            rw [Word.int?_eq_some_iff.mp fits]
            exact Int.tdiv_mul_cancel_of_tmod_eq_zero whole
      · rw [if_neg whole] at made
        cases made
  · rename_i a b
    refine ⟨.uint a b, rfl, ?_⟩
    split at made
    · cases made
    · rename_i nonzero
      split at made
      · rename_i whole
        have divisor : b.toNat ≠ 0 := Word.toNat_ne_zero nonzero
        have exact : a.toNat % b.toNat = 0 := by
          rw [← UInt64.toNat_mod, whole]
          rfl
        have product : a.toNat / b.toNat * b.toNat = a.toNat :=
          Nat.div_mul_cancel (Nat.dvd_of_mod_eq_zero exact)
        rw [Scalar.integer?_ofUInt, UInt64.toNat_div] at made
        cases made
        exact ⟨Int.natCast_ne_zero.mpr divisor, by exact_mod_cast congrArg Int.ofNat product⟩
      · cases made
  · cases made

theorem makes_least : Makes least fun a b n => n = min a b := by
  intro pair n made
  unfold least at made
  split at made
  · rename_i a b
    refine ⟨.int a b, rfl, ?_⟩
    cases made
    show (if b < a then b else a).toInt = min a.toInt b.toInt
    simp only [apply_ite Int64.toInt, Int64.lt_iff_toInt_lt]
    split <;> omega
  · rename_i a b
    refine ⟨.uint a b, rfl, ?_⟩
    rw [Scalar.integer?_ofUInt] at made
    cases made
    show ((if b < a then b else a).toNat : Int) = min (a.toNat : Int) b.toNat
    simp only [apply_ite UInt64.toNat, UInt64.lt_iff_toNat_lt]
    split <;> omega
  · cases made

theorem makes_greatest : Makes greatest fun a b n => n = max a b := by
  intro pair n made
  unfold greatest at made
  split at made
  · rename_i a b
    refine ⟨.int a b, rfl, ?_⟩
    cases made
    show (if a < b then b else a).toInt = max a.toInt b.toInt
    simp only [apply_ite Int64.toInt, Int64.lt_iff_toInt_lt]
    split <;> omega
  · rename_i a b
    refine ⟨.uint a b, rfl, ?_⟩
    rw [Scalar.integer?_ofUInt] at made
    cases made
    show ((if a < b then b else a).toNat : Int) = max (a.toNat : Int) b.toNat
    simp only [apply_ite UInt64.toNat, UInt64.lt_iff_toNat_lt]
    split <;> omega
  · cases made

end NumberPair

theorem IntegerPair.integer?_remainder {pair : IntegerPair} {n : Int}
    (made : pair.remainder.integer? = some n) :
    pair.second ≠ 0 ∧ n = pair.first.tmod pair.second := by
  unfold remainder at made
  split at made
  · rename_i a b
    split at made
    · cases made
    · rename_i nonzero
      refine ⟨Word.toInt_ne_zero nonzero, ?_⟩
      rw [← Int64.toInt_mod, Int64.ofInt_toInt] at made
      cases made
      exact Int64.toInt_mod a b
  · rename_i a b
    split at made
    · cases made
    · rename_i nonzero
      have divisor : b.toNat ≠ 0 := Word.toNat_ne_zero nonzero
      rw [Scalar.integer?_ofUInt, UInt64.toNat_mod] at made
      cases made
      refine ⟨Int.natCast_ne_zero.mpr divisor, ?_⟩
      exact (Int.ofNat_tmod a.toNat b.toNat).symm

/-! ## Integers made from values -/

/-- Numbers meet as two integers only if both are integers. -/
theorem Coercion.integers_of_numbers? {op : Operator} {a b : Value} {pair : IntegerPair}
    (met : numbers? op a b = .ok (some (.integers pair))) :
    a.integer? = some pair.first ∧ b.integer? = some pair.second := by
  unfold numbers? at met
  split at met
  case h_6 | h_7 =>
    cases met
    exact ⟨rfl, rfl⟩
  case h_8 =>
    obtain ⟨brought, ok, same⟩ := exists_of_map_eq_ok met
    cases same
    obtain ⟨first, second⟩ := mixed_ok ok
    exact ⟨congrArg some first.symm, congrArg some second.symm⟩
  case h_9 =>
    obtain ⟨brought, ok, same⟩ := exists_of_map_eq_ok met
    cases same
    obtain ⟨first, second⟩ := mixed_ok ok
    rw [first_swap, second_swap]
    exact ⟨congrArg some second.symm, congrArg some first.symm⟩
  all_goals cases met

namespace Value

variable {a b value : Value} {n : Int}

theorem integer?_combine {op : Operator} {result : NumberPair → Scalar}
    {relation : Int → Int → Int → Prop} (makes : NumberPair.Makes result relation)
    (ended : combine op result a b = .ok value) (integer : value.integer? = some n) :
    ∃ l r, a.integer? = some l ∧ b.integer? = some r ∧ relation l r n := by
  obtain ⟨pair?, met, ended⟩ := exists_of_bind_eq_ok ended
  cases pair? with
  | none =>
      cases ended
      cases integer
  | some pair =>
      cases ended
      obtain ⟨integers, rfl, related⟩ := makes pair n integer
      have numbers : Coercion.numbers? op a b = .ok (some (.integers integers)) := by
        unfold Coercion.arithmetic at met
        split at met
        · cases met
        · obtain ⟨pair?, numbers, same⟩ := exists_of_bind_eq_ok met
          cases pair? with
          | none => cases same
          | some pair =>
              cases same
              exact numbers
      obtain ⟨first, second⟩ := Coercion.integers_of_numbers? numbers
      exact ⟨_, _, first, second, related⟩

theorem integer?_remainder (ended : remainder a b = .ok value) (integer : value.integer? = some n) :
    ∃ l r, a.integer? = some l ∧ b.integer? = some r ∧ r ≠ 0 ∧ n = l.tmod r := by
  obtain ⟨pair, met, ended⟩ := exists_of_bind_eq_ok ended
  cases ended
  obtain ⟨pair?, numbers, same⟩ := exists_of_bind_eq_ok met
  match pair?, same with
  | some (.integers integers), same =>
      cases same
      obtain ⟨first, second⟩ := Coercion.integers_of_numbers? numbers
      exact ⟨_, _, first, second, IntegerPair.integer?_remainder integer⟩

end Value

namespace Meaning

variable {a b value : Value} {n : Int}

theorem integer?_combine {step : Arithmetic} (ended : combine step a b = .ok value)
    (integer : value.integer? = some n) :
    ∃ l r, a.integer? = some l ∧ b.integer? = some r ∧ step.Gives l r n := by
  cases step with
  | minus => exact Value.integer?_combine NumberPair.makes_difference ended integer
  | divide => exact Value.integer?_combine NumberPair.makes_quotient ended integer
  | remainder => exact Value.integer?_remainder ended integer

theorem integer?_join {step : Fold} (ended : join step a b = .ok value)
    (integer : value.integer? = some n) :
    ∃ l r, a.integer? = some l ∧ b.integer? = some r ∧ n = step.whole l r := by
  cases step with
  | sum => exact Value.integer?_combine (NumberPair.makes_exact _ _) ended integer
  | product => exact Value.integer?_combine (NumberPair.makes_exact _ _) ended integer
  | least => exact Value.integer?_combine NumberPair.makes_least ended integer
  | greatest => exact Value.integer?_combine NumberPair.makes_greatest ended integer
  | concat =>
      obtain ⟨text, rfl⟩ := joins_of_join ended
      cases integer
  | merge =>
      obtain ⟨items, rfl⟩ := joins_of_join ended
      cases integer

/-- Only folds that work on numbers begin with an integer. -/
theorem isNumeric_of_convert {step : Fold} (ended : convert step a = .ok value)
    (integer : value.integer? = some n) : step.IsNumeric := by
  cases step with
  | sum | product | least | greatest => trivial
  | concat =>
      obtain ⟨text, rfl⟩ := joins_of_convert ended
      cases integer
  | merge =>
      obtain ⟨items, rfl⟩ := joins_of_convert ended
      cases integer

theorem convert_of_isNumeric {step : Fold} (numeric : step.IsNumeric) (a : Value) :
    convert step a = Coercion.toArithmetic (.fold step) a := by
  cases step with
  | sum | product | least | greatest => rfl
  | concat | merge => cases numeric

/-! ## Integers made by runs -/

/-- In a scope the operand is the integer. -/
def Gives (operand : Meaning) (scope : Scope) (n : Int) : Prop :=
  ∃ value, (operand scope).outcome = .ok value ∧ value.integer? = some n

/-- In a scope the left operand is the integer, which is zero if the operand is not there. -/
def LeftGives : Option Meaning → Scope → Int → Prop
  | some lhs, scope, n => lhs.Gives scope n
  | none, _, n => n = 0

/-- In a scope the operand is the integer after it is made a number. -/
def ConvertsTo (op : Operator) (scope : Scope) (operand : Meaning) (n : Int) : Prop :=
  ∃ value number, (operand scope).outcome = .ok value ∧
    Coercion.toArithmetic op value = .ok number ∧ number.integer? = some n

theorem convertsTo_of_folded {step : Fold} {operand : Meaning} {scope : Scope}
    (ended : (folded step operand scope).outcome = .ok value) (integer : value.integer? = some n) :
    step.IsNumeric ∧ ConvertsTo (.fold step) scope operand n := by
  obtain ⟨before, ran, converted⟩ := Run.exists_of_bind_ok ended
  have numeric : step.IsNumeric := isNumeric_of_convert converted integer
  refine ⟨numeric, before, value, ran, ?_, integer⟩
  rw [← convert_of_isNumeric numeric]
  exact converted

/-- An integer at the end of a fold is there from its start on, and each operand is joined to it as
an integer. -/
theorem integer?_foldlM {step : Fold} {scope : Scope} (integer : value.integer? = some n)
    {operands : List Meaning} {acc : Value}
    (ended : (operands.foldlM (m := Run)
      (fun acc operand => do join step acc (← folded step operand scope)) acc).outcome
        = .ok value) :
    ∃ m numbers, acc.integer? = some m ∧
      List.Forall₂ (ConvertsTo (.fold step) scope) operands numbers ∧
      n = numbers.foldl step.whole m := by
  induction operands generalizing acc with
  | nil =>
      cases ended
      exact ⟨n, [], integer, .nil, rfl⟩
  | cons operand rest ih =>
      rw [List.foldlM_cons] at ended
      obtain ⟨joined, first, later⟩ := Run.exists_of_bind_ok ended
      -- what comes out is known to be an integer, so the later operands are looked at first
      obtain ⟨m, numbers, whole, converted, total⟩ := ih later
      obtain ⟨next, ran, first⟩ := Run.exists_of_bind_ok first
      obtain ⟨l, r, left, right, rfl⟩ := integer?_join first whole
      exact ⟨l, r :: numbers, left, .cons (convertsTo_of_folded ran right).2 converted, total⟩

theorem integer?_fold {step : Fold} {operands : List Meaning} {scope : Scope}
    (ended : (fold step operands scope).outcome = .ok value) (integer : value.integer? = some n) :
    ∃ numbers, List.Forall₂ (ConvertsTo (.fold step) scope) operands numbers ∧
      step.total? numbers = some n := by
  cases operands with
  | nil => cases ended
  | cons first rest =>
      obtain ⟨start, ran, ended⟩ := Run.exists_of_bind_ok ended
      obtain ⟨m, numbers, whole, converted, rfl⟩ := integer?_foldlM integer ended
      obtain ⟨numeric, head⟩ := convertsTo_of_folded ran whole
      exact ⟨m :: numbers, .cons head converted, Fold.total?_cons numeric m numbers⟩

/-- An integer that comes out of an operation on two operands is what the operation gives for the
integers that they are; a left one that is not there is zero. -/
theorem integer?_arithmetic {step : Arithmetic} {lhs : Option Meaning} {rhs : Meaning}
    {scope : Scope} (ended : (arithmetic step lhs rhs scope).outcome = .ok value)
    (integer : value.integer? = some n) :
    ∃ l r, step.Gives l r n ∧ Gives rhs scope r ∧ LeftGives lhs scope l := by
  cases lhs with
  | some lhs =>
      obtain ⟨a, ran, ended⟩ := Run.exists_of_bind_ok ended
      obtain ⟨b, later, ended⟩ := Run.exists_of_bind_ok ended
      obtain ⟨l, r, left, right, gives⟩ := integer?_combine ended integer
      exact ⟨l, r, gives, ⟨b, later, right⟩, a, ran, left⟩
  | none =>
      obtain ⟨a, ran, ended⟩ := Run.exists_of_bind_ok ended
      obtain ⟨b, later, ended⟩ := Run.exists_of_bind_ok ended
      obtain ⟨l, r, left, right, gives⟩ := integer?_combine ended integer
      cases ran
      exact ⟨l, r, gives, ⟨b, later, right⟩, (Option.some.inj left).symm⟩

end Meaning

/-! ## Integers made by expressions -/

variable [PatternEngine]

namespace Expr

/-- Integer results are exact, in every scope and so for every host.  An integer that a fold gives
is the sum, the product, the least or the greatest of its operands, all of which were made integers;
an integer that comes out of an operation on two operands is the difference, quotient or remainder
of the integers that they are.  On the way no step on words overflows or divides by zero, unless it
is tested and the result is made in another way. -/
theorem integer_results_are_exact (scope : Scope) :
    (∀ (step : Fold) (operands : List Expr) (value : Value) (n : Int),
      ((call (.fold step) operands).eval scope).outcome = .ok value → value.integer? = some n →
        ∃ numbers,
          List.Forall₂ (fun e m => Meaning.ConvertsTo (.fold step) scope e.eval m) operands
            numbers ∧
          step.total? numbers = some n) ∧
    (∀ (step : Arithmetic) (operands : List Expr) (value : Value) (n : Int),
      ((call (.arithmetic step) operands).eval scope).outcome = .ok value →
      value.integer? = some n →
        ∃ a b, step.Gives a b n ∧
          ((∃ rhs, operands = [rhs] ∧ a = 0 ∧ rhs.eval.Gives scope b) ∨
            ∃ lhs rhs rest, operands = lhs :: rhs :: rest ∧
              lhs.eval.Gives scope a ∧ rhs.eval.Gives scope b)) ∧
    (∀ pair : NumberPair,
      pair.onWords Word.sum? Word.unsignedSum? (· + ·) = pair.sum ∧
      pair.onWords Word.product? Word.unsignedProduct? (· * ·) = pair.product ∧
      pair.differenceOnWords = some pair.difference ∧
      pair.quotientOnWords = some pair.quotient) ∧
    ∀ pair : IntegerPair, pair.remainderOnWords = some pair.remainder := by
  refine ⟨?_, ?_, ?_, IntegerPair.remainderOnWords_eq⟩
  · intro step operands value n ended integer
    rw [eval, evalEach_eq] at ended
    obtain ⟨numbers, converted, total⟩ := Meaning.integer?_fold ended integer
    exact ⟨numbers, List.forall₂_map_left_iff.mp converted, total⟩
  · intro step operands value n ended integer
    rw [eval] at ended
    rcases operands with _ | ⟨first, _ | ⟨second, rest⟩⟩
    · cases ended
    · obtain ⟨l, r, gives, right, left⟩ := Meaning.integer?_arithmetic ended integer
      exact ⟨l, r, gives, .inl ⟨first, rfl, left, right⟩⟩
    · obtain ⟨l, r, gives, right, left⟩ := Meaning.integer?_arithmetic ended integer
      exact ⟨l, r, gives, .inr ⟨first, second, rest, rfl, left, right⟩⟩
  · intro pair
    refine ⟨?_, ?_, pair.differenceOnWords_eq, pair.quotientOnWords_eq⟩
    · exact NumberPair.onWords_eq Word.sum?_eq Word.unsignedSum?_eq (· + ·) pair
    · exact NumberPair.onWords_eq Word.product?_eq Word.unsignedProduct?_eq (· * ·) pair

end Expr

end

namespace Expr

/-- A text among the operands of a sum, and a difference of unsigned integers that is negative. -/
theorem integer_results_are_exact_unsigned :
    (∃ numbers,
      List.Forall₂ (fun e m => Meaning.ConvertsTo (.fold .sum) (.element (.int 2)) e.eval m)
        [var (literal (.string "")) none, literal (.string "3"), literal (.int 5)] numbers ∧
      Fold.sum.total? numbers = some 10) ∧
    ∃ a b, Arithmetic.minus.Gives a b (-1) ∧
      ((∃ rhs, [literal (.uint 9223372036854775808), literal (.uint 9223372036854775809)] = [rhs] ∧
          a = 0 ∧ rhs.eval.Gives (.element (.int 2)) b) ∨
        ∃ lhs rhs rest,
          [literal (.uint 9223372036854775808), literal (.uint 9223372036854775809)]
            = lhs :: rhs :: rest ∧
          lhs.eval.Gives (.element (.int 2)) a ∧ rhs.eval.Gives (.element (.int 2)) b) :=
  have exact := integer_results_are_exact (.element (.int 2))
  ⟨exact.1 .sum _ (.int 10) 10 (by decide +kernel) rfl,
    exact.2.1 .minus _ (.int (-1)) (-1) (by decide +kernel) rfl⟩

end Expr

end JsonRules
