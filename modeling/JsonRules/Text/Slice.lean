/-
# JsonRules.Text.Slice -- a part of a text by position

A slice starts at a position, counted from the end of the text if it is negative, and takes
a number of characters, or all but so many of the last ones if the number is negative.
Positions outside the text are moved to its nearest end, so a slice always lies within the
text (`sliceStart_le`, `sliceStart_le_sliceStop`, `sliceStop_le`).
-/

namespace JsonRules.Text

set_option autoImplicit false

/-- Where a slice starts in a text of a size. -/
def sliceStart (size start : Int) : Int :=
  if start < 0 then max (size + start) 0 else min start size

/-- Where a slice stops that starts at a position of a text. -/
def sliceStop (size start : Int) : Option Int → Int
  | none => size
  | some length => if length < 0 then max (size + length) start else min (start + length) size

/-- The characters of a slice. -/
def slice (text : List Char) (start : Int) (length : Option Int) : List Char :=
  let first := sliceStart text.length start
  let stop := sliceStop text.length first length
  (text.drop first.toNat).take (stop - first).toNat

theorem sliceStart_nonneg {size : Int} (start : Int) (sized : 0 ≤ size) :
    0 ≤ sliceStart size start := by
  unfold sliceStart
  split <;> omega

theorem sliceStart_le {size : Int} (start : Int) (sized : 0 ≤ size) :
    sliceStart size start ≤ size := by
  unfold sliceStart
  split <;> omega

theorem sliceStart_le_sliceStop {size start : Int} (length : Option Int) (within : start ≤ size) :
    start ≤ sliceStop size start length := by
  cases length with
  | none => exact within
  | some length =>
      simp only [sliceStop]
      split <;> omega

theorem sliceStop_le {size start : Int} (length : Option Int) (within : start ≤ size) :
    sliceStop size start length ≤ size := by
  cases length with
  | none => exact Int.le_refl size
  | some length =>
      simp only [sliceStop]
      split <;> omega

end JsonRules.Text
