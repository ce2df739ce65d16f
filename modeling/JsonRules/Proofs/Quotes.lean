/-
# JsonRules.Proofs.Quotes -- reading a quoted text

Printers that quote differ in what they write for one character.  That it is read as this
character is all the reader of strings asks of it (`ReadsEscapes`), and a whole quoted text is then
read back, whatever stands behind it (`string_quote`).
-/
import JsonRules.Json.Reader
import JsonRules.Value.Printer
import Mathlib.Data.List.Basic

namespace JsonRules.Json.Reader

set_option autoImplicit false

/-- The reader of strings takes what is written for a character for this character. -/
structure ReadsEscapes (escape : Char → List Char) : Prop where
  some : ∀ c, escape c ≠ []
  reads : ∀ c fuel tail, stringBody (fuel + 1) (escape c ++ tail)
    = (stringBody fuel tail).map fun (cs, rest) => (c :: cs, rest)

variable {escape : Char → List Char}

theorem stringBody_flatMap (reads : ReadsEscapes escape) {cs rest : List Char} {fuel : Nat}
    (enough : cs.length < fuel) :
    stringBody fuel (cs.flatMap escape ++ '"' :: rest) = .ok (cs, rest) := by
  induction cs generalizing fuel with
  | nil =>
      obtain ⟨fuel, rfl⟩ := Nat.exists_eq_add_one_of_ne_zero (Nat.ne_of_gt enough)
      rfl
  | cons c cs ih =>
      obtain ⟨fuel, rfl⟩ := Nat.exists_eq_add_one_of_ne_zero (Nat.ne_zero_of_lt enough)
      rw [List.flatMap_cons, List.append_assoc, reads.reads, ih (Nat.lt_of_succ_lt_succ enough)]
      rfl

theorem length_le_length_flatMap {α : Type} {f : α → List Char} (some : ∀ x, f x ≠ [])
    (xs : List α) : xs.length ≤ (xs.flatMap f).length := by
  induction xs with
  | nil => exact Nat.zero_le _
  | cons x xs ih =>
      have some := List.length_pos_iff.mpr (some x)
      rw [List.flatMap_cons, List.length_append, List.length_cons]
      omega

/-- A quoted text is read back, whatever its characters are and whatever is behind it. -/
theorem string_quote (reads : ReadsEscapes escape) (text : String) (rest : List Char) :
    ∃ body, Text.quote escape text ++ rest = '"' :: body ∧ string body = .ok (text, rest) := by
  refine ⟨text.toList.flatMap escape ++ '"' :: rest, by simp [Text.quote], ?_⟩
  have enough : text.toList.length < (text.toList.flatMap escape ++ '"' :: rest).length := by
    have := length_le_length_flatMap reads.some text.toList
    rw [List.length_append, List.length_cons]
    omega
  rw [string, stringBody_flatMap reads enough]
  simp only [bind, Except.bind, String.ofList_toList]

/-! ## Escapes of four digits -/

theorem hexValue?_digitChar : ∀ d < 16, hexValue? d.digitChar = some d := by decide

theorem fourDigitEscape_eq {c : Char} (small : c.toNat < 0x100) :
    Text.fourDigitEscape c
      = ['\\', 'u', '0', '0', (c.toNat / 16).digitChar, (c.toNat % 16).digitChar] := by
  unfold Text.fourDigitEscape
  by_cases single : c.toNat < 16
  · rw [Nat.toDigits_of_lt_base single, Nat.div_eq_of_lt single, Nat.mod_eq_of_lt single]
    rfl
  · rw [Nat.toDigits_of_base_le (by decide) (by omega), Nat.toDigits_of_lt_base (by omega)]
    rfl

theorem escape_fourDigits {c : Char} (small : c.toNat < 0x100) (tail : List Char) :
    Reader.escape
        ('u' :: '0' :: '0' :: (c.toNat / 16).digitChar :: (c.toNat % 16).digitChar :: tail)
      = .ok (c, tail) := by
  have zero : hexValue? '0' = some 0 := rfl
  have value : ((0 * 16 + 0) * 16 + c.toNat / 16) * 16 + c.toNat % 16 = c.toNat := by omega
  have digits :
      hexDigits ('0' :: '0' :: (c.toNat / 16).digitChar :: (c.toNat % 16).digitChar :: tail)
        = .ok (c.toNat, tail) := by
    rw [hexDigits, zero, hexValue?_digitChar (c.toNat / 16) (by omega),
      hexValue?_digitChar (c.toNat % 16) (by omega)]
    dsimp only
    rw [value]
  rw [Reader.escape, digits]
  simp only [bind, Except.bind]
  rw [if_neg (by simp; omega), if_neg (by simp; omega), Char.ofNat_toNat]

theorem stringBody_escaped {fuel : Nat} {c : Char} {text tail : List Char}
    (read : Reader.escape (text ++ tail) = .ok (c, tail)) :
    stringBody (fuel + 1) ('\\' :: (text ++ tail))
      = (stringBody fuel tail).map fun (cs, rest) => (c :: cs, rest) := by
  rw [stringBody, read]
  simp only [bind, Except.bind, Except.map]

theorem stringBody_plain {fuel : Nat} {c : Char} {tail : List Char} (quote : c ≠ '"')
    (backslash : c ≠ '\\') (notControl : ¬ c.toNat < 0x20) :
    stringBody (fuel + 1) (c :: tail)
      = (stringBody fuel tail).map fun (cs, rest) => (c :: cs, rest) := by
  rw [stringBody, if_neg notControl]
  · simp only [bind, Except.bind, Except.map]
  · exact quote
  · exact backslash

/-- The escapes of a printed value are read back; those of control characters have four digits. -/
theorem readsEscapes_scalar : ReadsEscapes Scalar.escape where
  some c := by
    unfold Scalar.escape
    split
    case h_6 =>
      split
      · simp [Text.fourDigitEscape]
      · simp
    all_goals simp
  reads c fuel tail := by
    unfold Scalar.escape
    split
    case h_1 | h_2 | h_3 | h_4 | h_5 => exact @stringBody_escaped fuel _ [_] tail rfl
    case h_6 quote backslash _ _ _ =>
      split
      · rename_i control
        have small : c.toNat < 0x100 := by
          simp at control
          omega
        rw [fourDigitEscape_eq small]
        exact stringBody_escaped (escape_fourDigits small tail)
      · rename_i plain
        exact stringBody_plain quote backslash (by simp at plain; omega)

end JsonRules.Json.Reader
