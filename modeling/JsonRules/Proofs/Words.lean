/-
# JsonRules.Proofs.Words -- arithmetic done on words

Arithmetic on integers is said on whole numbers whose result is fitted into a word.  A machine works
on the words themselves, and a step of it goes wrong if its result overflows or its divisor is zero.
Such a step is an operation here that may have no result (`Word.sum?` and its like), and what it
gives, if it gives anything, is the whole number, fitted into a word.

With these steps the arithmetic is put together once more, in the way a machine has to go about it:
some steps are tested, and their failure leads to doubles, and the others are taken for granted
(`NumberPair.differenceOnWords`, `quotientOnWords`, `IntegerPair.remainderOnWords`).  None of those
ever goes wrong, and the results are the same.
-/
import JsonRules.Arithmetic
import Mathlib.Data.Nat.Notation

namespace JsonRules

set_option autoImplicit false

-- Powers are the built-in ones, also where Mathlib is imported.
attribute [local instance (high)] instPowNat

/-! ## Steps on words -/

namespace Word

theorem int?_eq_none_iff {n : Int} : int? n = none ↔ n < -2 ^ (63 : Nat) ∨ 2 ^ (63 : Nat) ≤ n := by
  unfold int?
  split <;> simp <;> omega

theorem uint?_eq_none_iff {n : Int} : uint? n = none ↔ n < 0 ∨ 2 ^ (64 : Nat) ≤ n := by
  unfold uint?
  split <;> simp <;> omega

theorem toInt_ne_zero {w : Int64} (nonzero : w ≠ 0) : w.toInt ≠ 0 := by
  intro zero
  exact nonzero (Int64.toInt_inj.mp zero)

theorem toNat_ne_zero {w : UInt64} (nonzero : w ≠ 0) : w.toNat ≠ 0 := by
  intro zero
  exact nonzero (UInt64.toNat_inj.mp zero)

/-- As an unsigned word, a word that is not negative stands for the same number. -/
theorem toNat_toUInt64 {w : Int64} (nonnegative : 0 ≤ w.toInt) :
    (w.toUInt64.toNat : Int) = w.toInt := by
  have positive : 0 ≤ w.toBitVec.toInt := nonnegative
  show (w.toBitVec.toNat : Int) = w.toBitVec.toInt
  rw [BitVec.toInt_eq_toNat_cond] at positive ⊢
  split at positive <;> omega

-- Whether a number fits a word is not worked out: the bounds are too large to count to.
attribute [local irreducible] int? uint?

/-- The result of a step, unless the step overflows. -/
def checked {α : Type} (overflows : Bool) (result : α) : Option α :=
  if overflows then none else some result

def sum? (a b : Int64) : Option Int64 := checked (a.toBitVec.saddOverflow b.toBitVec) (a + b)

def difference? (a b : Int64) : Option Int64 := checked (a.toBitVec.ssubOverflow b.toBitVec) (a - b)

def product? (a b : Int64) : Option Int64 := checked (a.toBitVec.smulOverflow b.toBitVec) (a * b)

def opposite? (a : Int64) : Option Int64 := checked a.toBitVec.negOverflow (-a)

/-- No word can be divided by zero, and the least one not by minus one. -/
def quotient? (a b : Int64) : Option Int64 :=
  checked (b == 0 || (a == Int64.minValue && b == -1)) (a / b)

def remainder? (a b : Int64) : Option Int64 :=
  checked (b == 0 || (a == Int64.minValue && b == -1)) (a % b)

def unsignedSum? (a b : UInt64) : Option UInt64 :=
  checked (a.toBitVec.uaddOverflow b.toBitVec) (a + b)

def unsignedDifference? (a b : UInt64) : Option UInt64 :=
  checked (a.toBitVec.usubOverflow b.toBitVec) (a - b)

def unsignedProduct? (a b : UInt64) : Option UInt64 :=
  checked (a.toBitVec.umulOverflow b.toBitVec) (a * b)

def unsignedQuotient? (a b : UInt64) : Option UInt64 := checked (b == 0) (a / b)

def unsignedRemainder? (a b : UInt64) : Option UInt64 := checked (b == 0) (a % b)

/-- A step on signed words gives the number that it stands for, if a word holds the number. -/
theorem checked_eq_int? {overflows : Bool} {result : Int64} {n : Int}
    (flag : overflows = true ↔ n < -2 ^ (63 : Nat) ∨ 2 ^ (63 : Nat) ≤ n)
    (exact : ¬ overflows = true → result.toInt = n) : checked overflows result = int? n := by
  cases overflows with
  | true => exact (int?_eq_none_iff.mpr (flag.mp rfl)).symm
  | false => exact (int?_eq_some_iff.mpr (exact Bool.false_ne_true)).symm

theorem checked_eq_uint? {overflows : Bool} {result : UInt64} {n : Int}
    (flag : overflows = true ↔ n < 0 ∨ 2 ^ (64 : Nat) ≤ n)
    (exact : ¬ overflows = true → (result.toNat : Int) = n) :
    checked overflows result = uint? n := by
  cases overflows with
  | true => exact (uint?_eq_none_iff.mpr (flag.mp rfl)).symm
  | false => exact (uint?_eq_some_iff.mpr (exact Bool.false_ne_true)).symm

theorem sum?_eq (a b : Int64) : sum? a b = int? (a.toInt + b.toInt) := by
  apply checked_eq_int?
  · simp [BitVec.saddOverflow, or_comm]
  · exact BitVec.toInt_add_of_not_saddOverflow

theorem difference?_eq (a b : Int64) : difference? a b = int? (a.toInt - b.toInt) := by
  apply checked_eq_int?
  · simp [BitVec.ssubOverflow, or_comm]
  · exact BitVec.toInt_sub_of_not_ssubOverflow

theorem product?_eq (a b : Int64) : product? a b = int? (a.toInt * b.toInt) := by
  apply checked_eq_int?
  · simp [BitVec.smulOverflow, or_comm]
  · exact BitVec.toInt_mul_of_not_smulOverflow

theorem opposite?_eq (a : Int64) : opposite? a = int? (-a.toInt) := by
  have bounds := toInt_bounds a
  apply checked_eq_int?
  · simp [BitVec.negOverflow]
    omega
  · exact BitVec.toInt_neg_of_not_negOverflow

/-- A positive word has an opposite. -/
theorem toInt_neg_of_pos {a : Int64} (positive : 0 < a.toInt) : (-a).toInt = -a.toInt := by
  have bounds := toInt_bounds a
  rw [Int64.toInt_neg]
  exact Int.bmod_eq_of_le (by omega) (by omega)

theorem opposite?_of_pos {a : Int64} (positive : 0 < a.toInt) : opposite? a = some (-a) := by
  rw [opposite?_eq]
  exact int?_eq_some_iff.mpr (toInt_neg_of_pos positive)

theorem unsignedSum?_eq (a b : UInt64) : unsignedSum? a b = uint? (a.toNat + b.toNat) := by
  apply checked_eq_uint?
  · simp [BitVec.uaddOverflow]
    omega
  · intro fits
    exact_mod_cast BitVec.toNat_add_of_not_uaddOverflow fits

theorem unsignedDifference?_eq (a b : UInt64) :
    unsignedDifference? a b = uint? (a.toNat - b.toNat) := by
  have bound : a.toNat < 2 ^ 64 := a.toNat_lt
  apply checked_eq_uint?
  · simp [BitVec.usubOverflow]
    omega
  · intro fits
    have le : b ≤ a := by
      simp [BitVec.usubOverflow] at fits
      exact UInt64.le_iff_toNat_le.mpr fits
    rw [UInt64.toNat_sub_of_le a b le]
    exact Int.ofNat_sub (UInt64.le_iff_toNat_le.mp le)

theorem unsignedProduct?_eq (a b : UInt64) : unsignedProduct? a b = uint? (a.toNat * b.toNat) := by
  apply checked_eq_uint?
  · rw [← Int.natCast_mul]
    simp [BitVec.umulOverflow]
    omega
  · intro fits
    exact_mod_cast BitVec.toNat_mul_of_not_umulOverflow fits

theorem unsignedQuotient?_eq {a b : UInt64} (nonzero : b ≠ 0) :
    unsignedQuotient? a b = some (a / b) := by
  simp [unsignedQuotient?, checked, nonzero]

theorem unsignedRemainder?_eq {a b : UInt64} (nonzero : b ≠ 0) :
    unsignedRemainder? a b = some (a % b) := by
  simp [unsignedRemainder?, checked, nonzero]

/-- The least word divided by minus one. -/
theorem overflows_iff {a b : Int64} (nonzero : b ≠ 0) :
    (b == 0 || (a == Int64.minValue && b == -1)) = true ↔ a = Int64.minValue ∧ b = -1 := by
  simp [nonzero]

theorem toInt_quotient {a b : Int64} (fits : ¬ (a = Int64.minValue ∧ b = -1)) :
    (a / b).toInt = a.toInt.tdiv b.toInt := by
  by_cases least : a = Int64.minValue
  · exact Int64.toInt_div_of_ne_right a b fun minus => fits ⟨least, minus⟩
  · exact Int64.toInt_div_of_ne_left a b least

theorem quotient?_eq {a b : Int64} (nonzero : b ≠ 0) :
    quotient? a b = int? (a.toInt.tdiv b.toInt) := by
  apply checked_eq_int?
  · rw [overflows_iff nonzero]
    constructor
    · rintro ⟨rfl, rfl⟩
      exact .inr (by decide)
    · intro outside
      refine Decidable.byContradiction fun fits => ?_
      have bounds := toInt_bounds (a / b)
      rw [toInt_quotient fits] at bounds
      omega
  · rw [overflows_iff nonzero]
    exact toInt_quotient

/-- Only the remainder of the least word and minus one overflows, though it is zero. -/
theorem remainder?_eq {a b : Int64} (nonzero : b ≠ 0) :
    remainder? a b = if a = Int64.minValue ∧ b = -1 then none else some (a % b) := by
  have same := overflows_iff (a := a) nonzero
  unfold remainder? checked
  simp only [same]

end Word

/-! ## Arithmetic on words -/

attribute [local irreducible] Word.int? Word.uint?

namespace NumberPair

open Coercion (ofInt ofUInt)

/-- An operation whose step is tested, and done on doubles where the step overflows. -/
def onWords (signed : Int64 → Int64 → Option Int64) (unsigned : UInt64 → UInt64 → Option UInt64)
    (double : Float → Float → Float) : NumberPair → Scalar
  | .integers (.int a b) => (signed a b).elim (.double (double (ofInt a) (ofInt b))) .int
  | .integers (.uint a b) => (unsigned a b).elim (.double (double (ofUInt a) (ofUInt b))) .ofUInt
  | .doubles a b => .double (double a b)

theorem onWords_eq {signed : Int64 → Int64 → Option Int64}
    {unsigned : UInt64 → UInt64 → Option UInt64} {whole : Int → Int → Int}
    (int : ∀ a b, signed a b = Word.int? (whole a.toInt b.toInt))
    (uint : ∀ a b, unsigned a b = Word.uint? (whole a.toNat b.toNat))
    (double : Float → Float → Float) (pair : NumberPair) :
    onWords signed unsigned double pair = exact whole double pair := by
  unfold exact
  split
  · rename_i a b
    rw [onWords, int]
    cases Word.int? (whole a.toInt b.toInt) <;> rfl
  · rename_i a b
    rw [onWords, uint]
    -- What becomes of the word is the same on both sides, and is not to be worked out.
    generalize Scalar.ofUInt = settled
    cases Word.uint? (whole a.toNat b.toNat) with
    | none => rw [Option.elim_none]
    | some w => rw [Option.elim_some]
  · rfl

/-- The difference on words.  Of two unsigned words the smaller is taken from the larger, and the
result is turned around; neither of these two steps is tested. -/
def differenceOnWords : NumberPair → Option Scalar
  | .integers (.uint a b) =>
      match Word.unsignedDifference? a b with
      | some n => some (.ofUInt n)
      | none => do
          let magnitude ← Word.unsignedDifference? b a
          match Word.int? magnitude.toNat with
          | some n => return .int (← Word.opposite? n)
          | none => return .double (ofUInt a - ofUInt b)
  | pair => some (onWords Word.difference? Word.unsignedDifference? (· - ·) pair)

/-- The quotient on words.  The divisor is compared with zero; between signed words the steps are
tested as well, between unsigned ones they are not. -/
def quotientOnWords : NumberPair → Option Scalar
  | .integers (.int a b) =>
      if b = 0 then some .null
      else
        match Word.remainder? a b, Word.quotient? a b with
        | some rest, some n =>
            if rest = 0 then some (.int n) else some (.double (ofInt a / ofInt b))
        | _, _ => some (.double (ofInt a / ofInt b))
  | .integers (.uint a b) =>
      if b = 0 then some .null
      else do
        let rest ← Word.unsignedRemainder? a b
        if rest = 0 then return .ofUInt (← Word.unsignedQuotient? a b)
        else return .double (ofUInt a / ofUInt b)
  | .doubles a b => some (.double (a / b))

/-- Where one unsigned word is too small for a difference, the other is large enough. -/
theorem unsignedDifference?_swap {a b : UInt64} (small : Word.uint? (a.toNat - b.toNat) = none) :
    a.toNat < b.toNat ∧ Word.unsignedDifference? b a = some (b - a) ∧
      ((b - a).toNat : Int) = b.toNat - a.toNat := by
  have less : a.toNat < b.toNat := by
    have outside := Word.uint?_eq_none_iff.mp small
    have bound : a.toNat < 2 ^ 64 := a.toNat_lt
    omega
  have le : a ≤ b := UInt64.le_iff_toNat_le.mpr (Nat.le_of_lt less)
  have magnitude : ((b - a).toNat : Int) = b.toNat - a.toNat := by
    rw [UInt64.toNat_sub_of_le b a le]
    exact Int.ofNat_sub (Nat.le_of_lt less)
  refine ⟨less, ?_, magnitude⟩
  rw [Word.unsignedDifference?_eq, ← magnitude]
  exact Word.uint?_eq_some_iff.mpr rfl

/-- No step of the difference goes wrong. -/
theorem differenceOnWords_eq (pair : NumberPair) :
    pair.differenceOnWords = some pair.difference := by
  unfold difference
  split
  · rename_i a b
    rw [differenceOnWords, Word.unsignedDifference?_eq]
    cases fits : Word.uint? ((a.toNat : Int) - b.toNat) with
    | some n => rfl
    | none =>
        obtain ⟨less, step, magnitude⟩ := unsignedDifference?_swap fits
        rw [step, Option.bind_eq_bind, Option.bind_some, magnitude]
        cases signed : Word.int? ((b.toNat : Int) - a.toNat) with
        | none => rfl
        | some n =>
            have positive : 0 < n.toInt := by
              rw [Word.int?_eq_some_iff.mp signed]
              omega
            show (Word.opposite? n >>= fun turned => pure (Scalar.int turned)) = some (.int (-n))
            rw [Word.opposite?_of_pos positive]
            rfl
  · rename_i notUnsigned
    unfold differenceOnWords
    split
    · exact absurd rfl (notUnsigned _ _)
    · rw [onWords_eq Word.difference?_eq Word.unsignedDifference?_eq]

/-- No step of the quotient goes wrong. -/
theorem quotientOnWords_eq (pair : NumberPair) : pair.quotientOnWords = some pair.quotient := by
  match pair with
  | .integers (.int a b) =>
      rw [quotientOnWords, quotient]
      by_cases zero : b = 0
      · rw [if_pos zero, if_pos zero]
      · rw [if_neg zero, if_neg zero, Word.remainder?_eq zero, Word.quotient?_eq zero]
        by_cases least : a = Int64.minValue ∧ b = -1
        · -- The quotient is the first number above the words.
          have none : Word.int? (a.toInt.tdiv b.toInt) = none := by
            rw [least.1, least.2]
            exact Word.int?_eq_none_iff.mpr (.inr (by decide))
          rw [if_pos least, none, ite_self]
        · have quotient := Word.int?_eq_some_iff.mpr (Word.toInt_quotient least)
          have rest : a % b = 0 ↔ a.toInt.tmod b.toInt = 0 := by
            rw [← Int64.toInt_mod, ← Int64.toInt_inj]
            rfl
          rw [if_neg least, quotient]
          by_cases whole : a % b = 0
          · simp only [if_pos whole, if_pos (rest.mp whole)]
          · simp only [if_neg whole, if_neg (mt rest.mpr whole)]
  | .integers (.uint a b) =>
      rw [quotientOnWords, quotient]
      by_cases zero : b = 0
      · rw [if_pos zero, if_pos zero]
      · rw [if_neg zero, if_neg zero, Word.unsignedRemainder?_eq zero,
          Word.unsignedQuotient?_eq zero]
        by_cases whole : a % b = 0
        · simp [whole]
        · simp [whole]
  | .doubles a b => rfl

end NumberPair

namespace IntegerPair

/-- The remainder on words.  The divisor is compared with zero; between signed words the step is
tested, and is zero where it overflows. -/
def remainderOnWords : IntegerPair → Option Scalar
  | .int a b =>
      if b = 0 then some .null
      else some (.int ((Word.remainder? a b).getD 0))
  | .uint a b =>
      if b = 0 then some .null
      else do return .ofUInt (← Word.unsignedRemainder? a b)

/-- No step of the remainder goes wrong. -/
theorem remainderOnWords_eq (pair : IntegerPair) : pair.remainderOnWords = some pair.remainder := by
  cases pair with
  | int a b =>
      rw [remainderOnWords, remainder]
      by_cases zero : b = 0
      · rw [if_pos zero, if_pos zero]
      · rw [if_neg zero, if_neg zero, Word.remainder?_eq zero, ← Int64.toInt_mod, Int64.ofInt_toInt]
        by_cases least : a = Int64.minValue ∧ b = -1
        · have none : a % b = 0 := by
            rw [least.1, least.2]
            decide
          rw [if_pos least, none]
          rfl
        · rw [if_neg least]
          rfl
  | uint a b =>
      rw [remainderOnWords, remainder]
      by_cases zero : b = 0
      · rw [if_pos zero, if_pos zero]
      · rw [if_neg zero, if_neg zero, Word.unsignedRemainder?_eq zero]
        simp

end IntegerPair

end JsonRules
