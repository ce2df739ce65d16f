/-
# JsonRules.Proofs.Order -- how comparands compare

Integers, doubles and texts are each compared in their own way.  What they have in common is that
exchanging the two turns the answer around (`Comparands.order?_swap`), and that there is always an
answer, unless a double among them is a NaN (`Comparands.order?_eq_none_iff`).

For doubles both are read off their order by sign, exponent and mantissa, which the tests for less
and for equal agree with (`Double.order?_doubles`).
-/
import JsonRules.Proofs.Meeting

namespace JsonRules

set_option autoImplicit false

/-! ## The order of doubles -/

namespace Double

open Float.Model (UnpackedFloat)

theorem compare_swap (u v : UnpackedFloat) : (u.compare v).map Ordering.swap = v.compare u := by
  cases u with
  | notANumber => cases v <;> rfl
  | infinity s =>
      cases v with
      | infinity t => cases s <;> cases t <;> rfl
      | notANumber | zero | finite => cases s <;> rfl
  | zero s =>
      cases v with
      | infinity t | finite t => cases t <;> rfl
      | notANumber | zero => rfl
  | finite s m e =>
      cases v with
      | infinity t => cases s <;> cases t <;> rfl
      | notANumber | zero => cases s <;> rfl
      | finite t m' e' =>
          have turned : ((compare e e').then (compare m m')).swap
              = (compare e' e).then (compare m' m) := by
            rw [Ordering.swap_then, Int.compare_swap, Nat.compare_swap]
          cases s <;> cases t
          -- Both negative: the order of the magnitudes is turned around already.
          · exact congrArg (fun order => some order.swap) turned
          · rfl
          · rfl
          · exact congrArg some turned

theorem compare_eq_none_iff (u v : UnpackedFloat) :
    u.compare v = none ↔ u.isNaN = true ∨ v.isNaN = true := by
  cases u with
  | notANumber => exact iff_of_true rfl (.inl rfl)
  | infinity s | zero s | finite s =>
      cases v with
      | notANumber => cases s <;> exact iff_of_true rfl (.inr rfl)
      | infinity t | zero t | finite t =>
          apply iff_of_false
          · cases s <;> cases t <;> exact Option.some_ne_none _
          · rintro (isNaN | isNaN) <;> cases isNaN

/-- How the first double compares with the second; `none` if one of them is a NaN. -/
def order? (a b : Float) : Option Ordering := a.toModel.unpack.compare b.toModel.unpack

theorem order?_swap (a b : Float) : (order? a b).map Ordering.swap = order? b a :=
  compare_swap _ _

theorem order?_eq_none_iff (a b : Float) :
    order? a b = none ↔ a.isNaN = true ∨ b.isNaN = true :=
  compare_eq_none_iff _ _

theorem lt_iff (a b : Float) : a < b ↔ order? a b = some .lt := by
  show decide ((order? a b == some .lt) = true) = true ↔ _
  rw [decide_eq_true_iff, beq_iff_eq]

theorem gt_iff (a b : Float) : b < a ↔ order? a b = some .gt := by
  rw [lt_iff, ← order?_swap]
  rcases order? a b with _ | _ | _ | _ <;> simp

theorem beq_iff (a b : Float) : (a == b) = true ↔ order? a b = some .eq := by
  show (order? a b == some .eq) = true ↔ _
  rw [beq_iff_eq]

/-- The tests for less and for equal find out how doubles compare. -/
theorem order?_doubles (a b : Float) :
    Comparands.order? (.numbers (.doubles a b)) = order? a b := by
  simp only [Comparands.order?, lt_iff a b, gt_iff a b, beq_iff a b]
  rcases order? a b with _ | _ | _ | _ <;> simp

end Double

/-! ## The order of comparands -/

theorem IntegerPair.order?_integers (pair : IntegerPair) :
    Comparands.order? (.numbers (.integers pair)) = some (compare pair.first pair.second) := by
  cases pair with
  | int a b => rfl
  | uint a b =>
      show some (compare a.toNat b.toNat) = some (compare (a.toNat : Int) b.toNat)
      rw [Nat.compare_eq_ite_lt, Int.compare_eq_ite_lt]
      simp only [Int.ofNat_lt]

namespace Comparands

/-- Exchanges the two. -/
def swap : Comparands → Comparands
  | numbers (.integers pair) => numbers (.integers (Coercion.swap pair))
  | numbers (.doubles a b) => numbers (.doubles b a)
  | strings a b => strings b a

theorem swap_swap (pair : Comparands) : pair.swap.swap = pair := by
  rcases pair with (⟨_ | _⟩ | _) | _ <;> rfl

/-- One of the two is a NaN. -/
def HasNaN : Comparands → Prop
  | numbers (.doubles a b) => a.isNaN = true ∨ b.isNaN = true
  | _ => False

theorem order?_swap (pair : Comparands) : pair.swap.order? = pair.order?.map Ordering.swap := by
  cases pair with
  | strings a b => exact congrArg some Std.OrientedCmp.eq_swap
  | numbers pair =>
      cases pair with
      | doubles a b =>
          rw [swap, Double.order?_doubles, Double.order?_doubles, Double.order?_swap]
      | integers pair =>
          rw [swap, IntegerPair.order?_integers, IntegerPair.order?_integers,
            Coercion.first_swap, Coercion.second_swap]
          exact congrArg some (Int.compare_swap pair.first pair.second).symm

theorem order?_eq_none_iff (pair : Comparands) : pair.order? = none ↔ pair.HasNaN := by
  cases pair with
  | strings a b => simp [order?, HasNaN]
  | numbers pair =>
      cases pair with
      | doubles a b =>
          rw [Double.order?_doubles]
          exact Double.order?_eq_none_iff a b
      | integers pair => simp [IntegerPair.order?_integers, HasNaN]

end Comparands

end JsonRules
