/-
# JsonRules.Word -- whole numbers that fit a word

Integer arithmetic is done on whole numbers of any size, and its result is then fitted into
a signed or an unsigned word of 64 bits.  `int?_eq_some_iff` and `uint?_eq_some_iff` say that
fitting never changes the number.
-/

namespace JsonRules.Word

set_option autoImplicit false

-- Powers are the built-in ones, also where Mathlib is imported.
attribute [local instance (high)] instPowNat

/-- The signed word that is equal to `n`. -/
def int? (n : Int) : Option Int64 :=
  if -2 ^ (63 : Nat) ≤ n ∧ n < 2 ^ (63 : Nat) then some (Int64.ofInt n) else none

/-- The unsigned word that is equal to `n`. -/
def uint? (n : Int) : Option UInt64 :=
  if 0 ≤ n ∧ n < 2 ^ (64 : Nat) then some (UInt64.ofNat n.toNat) else none

theorem toInt_bounds (w : Int64) : -2 ^ (63 : Nat) ≤ w.toInt ∧ w.toInt < 2 ^ (63 : Nat) :=
  ⟨w.le_toInt, w.toInt_lt⟩

theorem inRange_toInt (w : Int64) :
    -2 ^ (63 : Nat) ≤ w.toInt ∧ w.toInt < 2 ^ (64 : Nat) := by
  have bounds := toInt_bounds w
  omega

theorem inRange_toNat (w : UInt64) :
    -2 ^ (63 : Nat) ≤ (w.toNat : Int) ∧ (w.toNat : Int) < 2 ^ (64 : Nat) := by
  have bound : w.toNat < 2 ^ 64 := w.toNat_lt
  omega

theorem int?_eq_some_iff {n : Int} {w : Int64} : int? n = some w ↔ w.toInt = n := by
  unfold int?
  constructor
  · intro fits
    split at fits
    · rename_i inRange
      cases fits
      exact Int64.toInt_ofInt_of_le inRange.1 inRange.2
    · cases fits
  · rintro rfl
    rw [if_pos (toInt_bounds w), Int64.ofInt_toInt]

theorem uint?_eq_some_iff {n : Int} {w : UInt64} : uint? n = some w ↔ (w.toNat : Int) = n := by
  unfold uint?
  constructor
  · intro fits
    split at fits
    · rename_i inRange
      cases fits
      have small : n.toNat % 2 ^ 64 = n.toNat := Nat.mod_eq_of_lt (by omega)
      rw [UInt64.toNat_ofNat', small]
      omega
    · cases fits
  · rintro rfl
    have bound : w.toNat < 2 ^ 64 := w.toNat_lt
    rw [if_pos ⟨by omega, by omega⟩]
    simp

end JsonRules.Word
