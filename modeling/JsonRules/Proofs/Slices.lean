/-
# JsonRules.Proofs.Slices -- parts of a text, worked out on words

The start and the length of a slice are signed words, and so is the size of the text.  A machine
adds them on words, goes on with what comes out as positions, and takes the characters between the
two; it goes wrong if a sum overflows, if the positions are not in order, or if they are not within
the text (`Text.sliceOnWords`).

None of that happens in a text whose size is a signed word (`Text.sliceOnWords_eq`).  A size is not
negative, so adding a negative number to it never overflows, whichever number that is; a length
that is not negative is added to a position with saturation.  The positions come out in order and
within the text, and what is taken is the slice (`Expr.substring_stays_within_the_text`).
-/
import JsonRules.Evaluation
import JsonRules.Libraries
import JsonRules.Proofs.Outcomes
import JsonRules.Proofs.Words

namespace JsonRules

set_option autoImplicit false

-- Powers are the built-in ones, also where Mathlib is imported.
attribute [local instance (high)] instPowNat

section

/-! ## Words as sizes and positions -/

namespace Word

theorem toInt_max (a b : Int64) : (max a b).toInt = max a.toInt b.toInt := by
  show (if a ≤ b then b else a).toInt = max a.toInt b.toInt
  simp only [Int64.le_iff_toInt_le]
  split <;> omega

theorem toInt_min (a b : Int64) : (min a b).toInt = min a.toInt b.toInt := by
  show (if a ≤ b then a else b).toInt = min a.toInt b.toInt
  simp only [Int64.le_iff_toInt_le]
  split <;> omega

attribute [local irreducible] int?

/-- The sum, or the limit beyond which it lies. -/
def saturatingSum (a b : Int64) : Int64 :=
  (sum? a b).getD (if b < 0 then Int64.minValue else Int64.maxValue)

/-- A sum that is cut at a limit of its own does not show that it was saturated. -/
theorem min_saturatingSum {a b limit : Int64} (first : 0 ≤ a.toInt) (second : 0 ≤ b.toInt) :
    (min (saturatingSum a b) limit).toInt = min (a.toInt + b.toInt) limit.toInt := by
  rw [toInt_min, saturatingSum, sum?_eq]
  cases fits : int? (a.toInt + b.toInt) with
  | some w => rw [Option.getD_some, int?_eq_some_iff.mp fits]
  | none =>
      have outside := int?_eq_none_iff.mp fits
      have bounds := toInt_bounds limit
      have notNegative : ¬ b < 0 := by
        rw [Int64.lt_iff_toInt_lt]
        exact Int.not_lt.mpr second
      have greatest : Int64.maxValue.toInt = 2 ^ (63 : Nat) - 1 := rfl
      rw [Option.getD_none, if_neg notNegative, greatest]
      omega

/-- A negative number can be added to a size. -/
theorem sum?_of_size {size n : Int64} (sized : 0 ≤ size.toInt) (negative : n.toInt < 0) :
    ∃ w, sum? size n = some w ∧ w.toInt = size.toInt + n.toInt := by
  cases fits : int? (size.toInt + n.toInt) with
  | some w => exact ⟨w, (sum?_eq size n).trans fits, int?_eq_some_iff.mp fits⟩
  | none =>
      have outside := int?_eq_none_iff.mp fits
      have bounds := toInt_bounds size
      have bounds' := toInt_bounds n
      omega

end Word

/-! ## Slices on words -/

namespace Text

/-- What stands between two positions of a list; they have to be in order and within the list. -/
def between? {α : Type} (items : List α) (first stop : Nat) : Option (List α) :=
  if first ≤ stop ∧ stop ≤ items.length then some ((items.drop first).take (stop - first)) else none

/-- Where a slice starts; the sum is not tested. -/
def startOnWords (size start : Int64) : Option Int64 :=
  if start < 0 then (Word.sum? size start).map (max · 0) else some (min start size)

/-- Where a slice stops; one sum is not tested, and the other one is saturated. -/
def stopOnWords (size first : Int64) : Option Int64 → Option Int64
  | none => some size
  | some length =>
      if length < 0 then (Word.sum? size length).map (max · first)
      else some (min (Word.saturatingSum first length) size)

/-- The characters of a slice, unless a step goes wrong. -/
def sliceOnWords (text : List Char) (start : Int64) (length : Option Int64) :
    Option (List Char) := do
  let size := Int64.ofNat text.length
  let first ← startOnWords size start
  let stop ← stopOnWords size first length
  between? text first.toUInt64.toNat stop.toUInt64.toNat

section Steps

variable {size first : Int64}

theorem startOnWords_eq (sized : 0 ≤ size.toInt) (start : Int64) :
    ∃ w, startOnWords size start = some w ∧ w.toInt = sliceStart size.toInt start.toInt := by
  unfold startOnWords sliceStart
  simp only [Int64.lt_iff_toInt_lt, Int64.toInt_zero]
  split
  · rename_i negative
    obtain ⟨w, added, same⟩ := Word.sum?_of_size sized negative
    refine ⟨max w 0, by rw [added, Option.map_some], ?_⟩
    rw [Word.toInt_max, same, Int64.toInt_zero]
  · exact ⟨_, rfl, Word.toInt_min start size⟩

theorem stopOnWords_eq (sized : 0 ≤ size.toInt) (started : 0 ≤ first.toInt)
    (length : Option Int64) :
    ∃ w, stopOnWords size first length = some w ∧
      w.toInt = sliceStop size.toInt first.toInt (length.map Int64.toInt) := by
  cases length with
  | none => exact ⟨size, rfl, rfl⟩
  | some length =>
      simp only [stopOnWords, sliceStop, Option.map_some, Int64.lt_iff_toInt_lt, Int64.toInt_zero]
      split
      · rename_i negative
        obtain ⟨w, added, same⟩ := Word.sum?_of_size sized negative
        refine ⟨max w first, by rw [added, Option.map_some], ?_⟩
        rw [Word.toInt_max, same]
      · rename_i positive
        exact ⟨_, rfl, Word.min_saturatingSum started (Int.not_lt.mp positive)⟩

end Steps

/-! ## Slices as parts of the text -/

/-- The part of the text from one position to another. -/
def IsPart (text run : List Char) (first stop : Nat) : Prop :=
  ∃ before after, text = before ++ run ++ after ∧ before.length = first ∧
    (before ++ run).length = stop

theorem isPart_of_between? {text run : List Char} {first stop : Nat}
    (taken : between? text first stop = some run) : IsPart text run first stop := by
  unfold between? at taken
  split at taken
  · rename_i bounds
    cases taken
    have whole : text.take first ++ (text.drop first).take (stop - first) = text.take stop := by
      rw [← List.take_add, Nat.add_sub_cancel' bounds.1]
    refine ⟨text.take first, text.drop stop, ?_, ?_, ?_⟩
    · rw [whole, List.take_append_drop]
    · rw [List.length_take]
      omega
    · rw [whole, List.length_take]
      omega
  · cases taken

/-- The positions of a slice are in order and within the text. -/
theorem between?_eq_slice (text : List Char) (start : Int) (length : Option Int) :
    let first := sliceStart text.length start
    between? text first.toNat (sliceStop text.length first length).toNat
      = some (slice text start length) := by
  intro first
  have sized := Int.natCast_nonneg text.length
  have started : 0 ≤ first := sliceStart_nonneg start sized
  have bounded : first ≤ text.length := sliceStart_le start sized
  have order := sliceStart_le_sliceStop length bounded
  have within := sliceStop_le length bounded
  have count (stop : Int) : stop.toNat - first.toNat = (stop - first).toNat := by omega
  rw [between?, if_pos ⟨Int.toNat_le_toNat order, by omega⟩, count]
  rfl

/-- No step goes wrong, and the characters are those of the slice. -/
theorem sliceOnWords_eq {text : List Char} (small : text.length < 2 ^ (63 : Nat)) (start : Int64)
    (length : Option Int64) :
    sliceOnWords text start length = some (slice text start.toInt (length.map Int64.toInt)) := by
  have size : (Int64.ofNat text.length).toInt = text.length := Int64.toInt_ofNat_of_lt small
  have sized : 0 ≤ (Int64.ofNat text.length).toInt := by omega
  obtain ⟨first, starts, isStart⟩ := startOnWords_eq sized start
  have started : 0 ≤ first.toInt := isStart ▸ sliceStart_nonneg _ sized
  obtain ⟨stop, stops, isStop⟩ := stopOnWords_eq sized started length
  have order : first.toInt ≤ stop.toInt :=
    isStop ▸ sliceStart_le_sliceStop _ (isStart ▸ sliceStart_le _ sized)
  have firstPosition := Word.toNat_toUInt64 started
  have stopPosition := Word.toNat_toUInt64 (Int.le_trans started order)
  rw [sliceOnWords, starts, Option.bind_eq_bind, Option.bind_some, stops, Option.bind_some,
    ← between?_eq_slice, ← size, ← isStart, ← isStop]
  congr 1 <;> omega

/-- A slice up to a position and the slice from there on are the whole text. -/
theorem slice_append_slice (text : List Char) (k : Int) :
    slice text 0 (some k) ++ slice text k none = text := by
  have sized := Int.natCast_nonneg text.length
  have zero : sliceStart text.length 0 = 0 := by
    rw [sliceStart, if_neg (Int.lt_irrefl 0)]
    exact Int.min_eq_left sized
  -- Counted from the front, a length stops where the same number starts.
  have same : sliceStop text.length 0 (some k) = sliceStart text.length k := by
    rw [sliceStop, sliceStart, Int.zero_add]
  have front : slice text 0 (some k) = text.take (sliceStart text.length k).toNat := by
    simp only [slice, zero, same, Int.sub_zero, Int.toNat_zero, List.drop_zero]
  have back : slice text k none = text.drop (sliceStart text.length k).toNat := by
    simp only [slice, sliceStop]
    refine List.take_of_length_le ?_
    rw [List.length_drop]
    omega
  rw [front, back, List.take_append_drop]

end Text

/-! ## The operator on words -/

/-- A part of a text, worked out on words; what is done when a step goes wrong is a parameter. -/
def Meaning.substringOnWords (fallback : Run Value) (text : Meaning)
    (start length : Option Meaning) : Meaning := fun scope => do
  let text ← Coercion.toText .substring (← text scope)
  let start ← countIfAny .substring start scope
  let length ← countIfAny .substring length scope
  match Text.sliceOnWords text.toList (start.getD 0) length with
  | some run => return .string (String.ofList run)
  | none => fallback

variable [PatternEngine]

namespace Expr

open Text (sliceOnWords slice IsPart)

/-- The operand has no text whose size is beyond the words. -/
def HasSize (e : Expr) (scope : Scope) : Prop :=
  ∀ value text, (e.eval scope).outcome = .ok value → value.text? = some text →
    text.toList.length < 2 ^ (63 : Nat)

/-- Whatever is done when a step goes wrong, it is never done. -/
theorem eval_substring_onWords (fallback : Run Value) {e : Expr} {scope : Scope}
    (sized : e.HasSize scope) (rest : List Expr) :
    (call .substring (e :: rest)).eval scope
      = Meaning.substringOnWords fallback e.eval (rest.head?.map eval) (rest.tail.head?.map eval)
          scope := by
  rw [eval, evalEach_eq, List.map_cons, Meaning.ofOperator, List.head?_map, ← List.map_tail,
    List.head?_map, Meaning.substring, Meaning.substringOnWords]
  refine Run.bind_congr_ok fun value ended => ?_
  cases spelled : value.text? with
  | none =>
      rw [Coercion.toText, spelled]
      rfl
  | some text =>
      have small := sized value text ended spelled
      rw [Coercion.toText, spelled]
      refine Run.bind_congr_result rfl (bind_congr fun start => bind_congr fun length => ?_)
      rw [Text.sliceOnWords_eq small]
      cases start <;> rfl

/-- **A part of a text stays within the text.**  Whichever words ask for it, the size of a text is
a word, no step on the words goes wrong, and the part is a run of characters between two positions.
The first one is the start, counted from the end if it is negative, and moved into the text.  The
second one is the end of the text if no length is asked for; else it is as far behind the first one
as the length says, or as far from the end if the length is negative, but not behind the text and
not before the first one.  Cut at any number, a text is its two parts.  And the operator takes the
parts of its texts in this way, whatever it would do when a step goes wrong. -/
theorem substring_stays_within_the_text :
    (∀ (text : List Char) (start : Int64) (length : Option Int64), text.length < 2 ^ (63 : Nat) →
      ∃ run first stop, sliceOnWords text start length = some run ∧ IsPart text run first stop ∧
        (first : Int) = max 0 (min (text.length : Int)
          (if start.toInt < 0 then (text.length : Int) + start.toInt else start.toInt)) ∧
        (stop : Int) = match length with
          | none => (text.length : Int)
          | some n =>
              if 0 ≤ n.toInt then min (text.length : Int) (first + n.toInt)
              else max (first : Int) (text.length + n.toInt)) ∧
    (∀ (text : List Char) (k : Int64), text.length < 2 ^ (63 : Nat) →
      ∃ front back, sliceOnWords text 0 (some k) = some front ∧
        sliceOnWords text k none = some back ∧ front ++ back = text) ∧
    ∀ (fallback : Run Value) (e : Expr) (rest : List Expr) (scope : Scope), e.HasSize scope →
      (call .substring (e :: rest)).eval scope
        = Meaning.substringOnWords fallback e.eval (rest.head?.map eval)
            (rest.tail.head?.map eval) scope := by
  refine ⟨fun text start length small => ?_, fun text k small => ?_,
    fun fallback e rest scope sized => eval_substring_onWords fallback sized rest⟩
  · have taken := Text.between?_eq_slice text start.toInt (length.map Int64.toInt)
    refine ⟨_, _, _, Text.sliceOnWords_eq small start length, Text.isPart_of_between? taken, ?_, ?_⟩
    · unfold Text.sliceStart
      split <;> omega
    · have sized := Int.natCast_nonneg text.length
      have started := Text.sliceStart_nonneg start.toInt sized
      have bounded := Text.sliceStart_le start.toInt sized
      cases length with
      | none => rfl
      | some n =>
          simp only [Option.map_some, Text.sliceStop]
          split <;> split <;> omega
  · exact ⟨_, _, Text.sliceOnWords_eq small 0 (some k), Text.sliceOnWords_eq small k none,
      Text.slice_append_slice text k.toInt⟩

end Expr

end

namespace Expr

open Text (sliceOnWords slice IsPart)

/-- Two characters near the end of a text, and the extreme words for start and length. -/
theorem substring_stays_within_the_text_extreme :
    let word := "größe".toList
    let fallback : Run Value := Run.fault (.arity .substring 0)
    let part : Expr := call .substring
      [literal (.string "größe"), literal (.int Int64.minValue), literal (.int Int64.maxValue)]
    word.length < 2 ^ (63 : Nat) ∧
      (∃ run, sliceOnWords word (-3) (some (-1)) = some run ∧ run = "öß".toList ∧
        IsPart word run 2 4) ∧
      (∃ front back, sliceOnWords word 0 (some Int64.minValue) = some front ∧
        sliceOnWords word Int64.minValue none = some back ∧ front ++ back = word) ∧
      (literal (.string "größe")).HasSize (.element .null) ∧
      part.eval (.element .null) = Meaning.substringOnWords fallback
        (literal (.string "größe")).eval (some (literal (.int Int64.minValue)).eval)
        (some (literal (.int Int64.maxValue)).eval) (.element .null) ∧
      (part.eval (.element .null)).outcome = .ok (.string "größe") := by
  intro word fallback part
  have small : word.length < 2 ^ (63 : Nat) := by decide +kernel
  have sized : (literal (.string "größe")).HasSize (.element .null) := by
    rintro value text ⟨⟩ ⟨⟩
    exact small
  obtain ⟨bounds, splits, fallsNot⟩ := substring_stays_within_the_text
  obtain ⟨run, first, stop, taken, isPart, starts, stops⟩ := bounds word (-3) (some (-1)) small
  obtain rfl : first = 2 := Int.ofNat.inj (starts.trans (by decide +kernel))
  obtain rfl : stop = 4 := Int.ofNat.inj (stops.trans (by decide +kernel))
  have same : sliceOnWords word (-3) (some (-1)) = some "öß".toList := by decide +kernel
  exact ⟨small, ⟨run, taken, Option.some.inj (taken.symm.trans same), isPart⟩,
    splits word Int64.minValue small, sized, fallsNot fallback _ _ _ sized, by decide +kernel⟩

end Expr

end JsonRules
