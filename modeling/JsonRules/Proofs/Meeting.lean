/-
# JsonRules.Proofs.Meeting -- how two integers meet

Two integers of different kinds are brought to one kind before anything is done with them.  There is
no kind for both if one is negative and the other too large for a signed word (`Coercion.Apart`);
this is a fault, and the only one.  Otherwise they meet as the numbers that they are
(`Coercion.exists_numbers?`), in whatever kinds they came.

An operator of two operands sees no more than the values that these run to, so that what it gives is
the arithmetic of the two values (`Expr.outcome_arithmetic`, `Expr.outcome_fold`).
-/
import JsonRules.Proofs.Integers

namespace JsonRules

set_option autoImplicit false

-- Powers are the built-in ones, also where Mathlib is imported.
attribute [local instance (high)] instPowNat

-- Whether a number fits a word is not worked out: the bounds are too large to count to.
attribute [local irreducible] Word.int? Word.uint?

/-! ## Integers of one kind -/

/-- A value that is an integer is a signed or an unsigned word. -/
theorem Value.integer?_cases {value : Value} {n : Int} (integer : value.integer? = some n) :
    (∃ w : Int64, value = .int w ∧ w.toInt = n) ∨
      ∃ w : UInt64, value = .uint w ∧ (w.toNat : Int) = n := by
  cases value with
  | array items => cases integer
  | object entries => cases integer
  | scalar scalar =>
      cases scalar with
      | int w => exact .inl ⟨w, rfl, Option.some.inj integer⟩
      | uint w => exact .inr ⟨w, rfl, Option.some.inj integer⟩
      | null | bool | double | string => cases integer

namespace Coercion

/-- Two integers that no kind of word holds: one is negative, and the other is too large for a
signed word. -/
def Apart (m n : Int) : Prop := m < 0 ∧ 2 ^ (63 : Nat) ≤ n ∨ n < 0 ∧ 2 ^ (63 : Nat) ≤ m

instance (m n : Int) : Decidable (Apart m n) :=
  inferInstanceAs (Decidable (m < 0 ∧ 2 ^ (63 : Nat) ≤ n ∨ n < 0 ∧ 2 ^ (63 : Nat) ≤ m))

theorem not_apart_zero (n : Int) : ¬ Apart 0 n := by
  unfold Apart
  omega

variable {op : Operator} {a b : Value} {m n : Int}

theorem unsigned_eq (op : Operator) (v : Int64) :
    unsigned op v = (Word.uint? v.toInt).elim (.error (.range op v)) .ok := by
  unfold unsigned
  cases Word.uint? v.toInt <;> rfl

theorem mixed_apart {v : Int64} {w : UInt64} (negative : v.toInt < 0)
    (large : 2 ^ (63 : Nat) ≤ (w.toNat : Int)) : mixed op v w = .error (.range op v) := by
  have noSigned : Word.int? w.toNat = none := Word.int?_eq_none_iff.mpr (.inr large)
  have noUnsigned : Word.uint? v.toInt = none := Word.uint?_eq_none_iff.mpr (.inl negative)
  rw [mixed_eq, noSigned, unsigned_eq, noUnsigned]
  rfl

theorem exists_mixed {v : Int64} {w : UInt64}
    (close : 0 ≤ v.toInt ∨ (w.toNat : Int) < 2 ^ (63 : Nat)) : ∃ pair, mixed op v w = .ok pair := by
  rw [mixed_eq, unsigned_eq]
  cases signed : Word.int? w.toNat with
  | some s => exact ⟨.int v s, rfl⟩
  | none =>
      cases fits : Word.uint? v.toInt with
      | some u => exact ⟨.uint u w, rfl⟩
      | none =>
          -- The signed word would be negative, and the unsigned one too large.
          have large := Word.int?_eq_none_iff.mp signed
          have negative := Word.uint?_eq_none_iff.mp fits
          have bounds := Word.toInt_bounds v
          omega

/-- Integers that are apart do not meet; the fault tells the negative one. -/
theorem numbers?_apart (op : Operator) (first : a.integer? = some m)
    (second : b.integer? = some n) (apart : Apart m n) :
    numbers? op a b = .error (.range op (Int64.ofInt (min m n))) := by
  rcases Value.integer?_cases first with ⟨v, rfl, rfl⟩ | ⟨v, rfl, rfl⟩ <;>
    rcases Value.integer?_cases second with ⟨w, rfl, rfl⟩ | ⟨w, rfl, rfl⟩
  · have boundsLeft := Word.toInt_bounds v
    have boundsRight := Word.toInt_bounds w
    unfold Apart at apart
    omega
  · rcases apart with ⟨negative, large⟩ | ⟨negative, -⟩
    · have least : min v.toInt w.toNat = v.toInt := by omega
      rw [least, Int64.ofInt_toInt]
      show (mixed op v w).map _ = _
      rw [mixed_apart negative large]
      rfl
    · omega
  · rcases apart with ⟨negative, -⟩ | ⟨negative, large⟩
    · omega
    · have least : min (v.toNat : Int) w.toInt = w.toInt := by omega
      rw [least, Int64.ofInt_toInt]
      show (mixed op w v).map _ = _
      rw [mixed_apart negative large]
      rfl
  · unfold Apart at apart
    omega

/-- Integers that are not apart meet as the numbers that they are. -/
theorem exists_numbers? (op : Operator) (first : a.integer? = some m)
    (second : b.integer? = some n) (close : ¬ Apart m n) :
    ∃ pair, numbers? op a b = .ok (some (.integers pair)) ∧ pair.first = m ∧ pair.second = n := by
  rcases Value.integer?_cases first with ⟨v, rfl, rfl⟩ | ⟨v, rfl, rfl⟩ <;>
    rcases Value.integer?_cases second with ⟨w, rfl, rfl⟩ | ⟨w, rfl, rfl⟩
  · exact ⟨.int v w, rfl, rfl, rfl⟩
  · obtain ⟨pair, met⟩ : ∃ pair, mixed op v w = .ok pair := by
      apply exists_mixed
      unfold Apart at close
      omega
    refine ⟨pair, ?_, mixed_ok met⟩
    show (mixed op v w).map _ = _
    rw [met]
    rfl
  · obtain ⟨pair, met⟩ : ∃ pair, mixed op w v = .ok pair := by
      apply exists_mixed
      unfold Apart at close
      omega
    refine ⟨swap pair, ?_, ?_⟩
    · show (mixed op w v).map _ = _
      rw [met]
      rfl
    · rw [first_swap, second_swap]
      exact (mixed_ok met).symm
  · exact ⟨.uint v w, rfl, rfl, rfl⟩

end Coercion

/-! ## Arithmetic on integers that meet -/

namespace Value

variable {a b : Value} {m n : Int}

/-- Arithmetic on two integers that meet is done on a pair of words. -/
theorem exists_combine (op : Operator) (result : NumberPair → Scalar)
    (first : a.integer? = some m) (second : b.integer? = some n)
    (close : ¬ Coercion.Apart m n) :
    ∃ pair : IntegerPair, pair.first = m ∧ pair.second = n ∧
      combine op result a b = .ok (.scalar (result (.integers pair))) := by
  obtain ⟨pair, met, left, right⟩ := Coercion.exists_numbers? op first second close
  have brought : Coercion.arithmetic op a b = .ok (some (.integers pair)) := by
    unfold Coercion.arithmetic
    split
    · cases first
    · rw [met]
      rfl
  refine ⟨pair, left, right, ?_⟩
  rw [combine, brought]
  rfl

theorem exists_remainder (first : a.integer? = some m) (second : b.integer? = some n)
    (close : ¬ Coercion.Apart m n) :
    ∃ pair : IntegerPair, pair.first = m ∧ pair.second = n ∧
      remainder a b = .ok (.scalar pair.remainder) := by
  obtain ⟨pair, met, left, right⟩ :=
    Coercion.exists_numbers? (.arithmetic .remainder) first second close
  refine ⟨pair, left, right, ?_⟩
  rw [remainder, Coercion.integers, met]
  rfl

end Value

/-! ## Operators of two operands -/

namespace Expr

variable [PatternEngine]

variable {scope : Scope} {x y : Expr} {a b : Value}

theorem outcome_arithmetic (step : Arithmetic) (left : (x.eval scope).outcome = .ok a)
    (right : (y.eval scope).outcome = .ok b) :
    ((call (.arithmetic step) [x, y]).eval scope).outcome = Meaning.combine step a b := by
  show (Meaning.arithmetic step (some x.eval) y.eval scope).outcome = _
  rw [Meaning.arithmetic, Run.outcome_bind_ok _ left, Run.outcome_bind_ok _ right]
  rfl

/-- A left operand that is not there is zero. -/
theorem outcome_arithmetic_single (step : Arithmetic) (right : (y.eval scope).outcome = .ok b) :
    ((call (.arithmetic step) [y]).eval scope).outcome = Meaning.combine step (.int 0) b := by
  show (Meaning.arithmetic step none y.eval scope).outcome = _
  rw [Meaning.arithmetic, Run.outcome_bind_ok _ rfl, Run.outcome_bind_ok _ right]
  rfl

theorem outcome_fold (step : Fold) (left : (x.eval scope).outcome = .ok a)
    (right : (y.eval scope).outcome = .ok b) (convertsLeft : Meaning.convert step a = .ok a)
    (convertsRight : Meaning.convert step b = .ok b) :
    ((call (.fold step) [x, y]).eval scope).outcome = Meaning.join step a b := by
  have folded {e : Expr} {value : Value} (ended : (e.eval scope).outcome = .ok value)
      (converts : Meaning.convert step value = .ok value) :
      (Meaning.folded step e.eval scope).outcome = .ok value := by
    rw [Meaning.folded, Run.outcome_bind_ok _ ended]
    exact converts
  show (Meaning.fold step [x.eval, y.eval] scope).outcome = _
  rw [Meaning.fold, Run.outcome_bind_ok _ (folded left convertsLeft), List.foldlM_cons,
    Run.outcome_bind, Run.outcome_bind_ok _ (folded right convertsRight)]
  show (Meaning.join step a b >>= fun joined => Except.ok joined) = _
  cases Meaning.join step a b <;> rfl

end Expr

/-- A fold that works on numbers takes an integer as it is. -/
theorem Meaning.convert_integer {step : Fold} (numeric : step.IsNumeric) {value : Value} {n : Int}
    (integer : value.integer? = some n) : convert step value = .ok value := by
  rw [convert_of_isNumeric numeric]
  rcases Value.integer?_cases integer with ⟨w, rfl, -⟩ | ⟨w, rfl, -⟩ <;> rfl

end JsonRules
