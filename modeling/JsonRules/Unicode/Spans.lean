/-
# JsonRules.Unicode.Spans -- sets of code points as spans

A set of code points is written as its spans in rising order, with a gap between
neighbours; so a set has one list of spans, and its union with another and its complement
are made in one pass.
-/
import JsonRules.Unicode.Runs

namespace JsonRules.Unicode

set_option autoImplicit false

/-- The code points from `first` to `last`. -/
structure Span where
  first : Nat
  last : Nat
  deriving DecidableEq, Repr

/-- A set of code points. -/
abbrev Spans := List Span

namespace Spans

/-- The last code point. -/
def lastCode : Nat := 0x10ffff

/-- Adds spans to the span `current`; each starts no earlier than the one before it.  Spans that
touch become one. -/
def extend (current : Span) : List Span → Spans
  | [] => [current]
  | next :: rest =>
      if next.first ≤ current.last + 1 then extend ⟨current.first, max current.last next.last⟩ rest
      else current :: extend next rest

/-- The set of spans each of which starts no earlier than the one before it. -/
def ofSorted : List Span → Spans
  | [] => []
  | first :: rest => extend first rest

/-- The union of two sets. -/
def union (a b : Spans) : Spans :=
  ofSorted (a.merge b fun x y => decide (x.first ≤ y.first))

/-- The code points from `start` on that are not in the set. -/
def complementFrom (start : Nat) : Spans → Spans
  | [] => if start ≤ lastCode then [⟨start, lastCode⟩] else []
  | span :: rest =>
      let behind := complementFrom (span.last + 1) rest
      if start < span.first then ⟨start, span.first - 1⟩ :: behind else behind

/-- The code points that are not in the set. -/
def complement (a : Spans) : Spans := complementFrom 0 a

/-- The intersection of two sets. -/
def inter (a b : Spans) : Spans := (a.complement.union b.complement).complement

/-- The code point is in the set. -/
def contains (a : Spans) (n : Nat) : Bool := a.any fun span => span.first ≤ n && n ≤ span.last

/-- The set of some code points. -/
def ofCodes (codes : List Nat) : Spans :=
  ofSorted ((codes.map fun n => ⟨n, n⟩).mergeSort fun x y => decide (x.first ≤ y.first))

end Spans

/-- The spans of runs that start at the code point `start`. -/
def Runs.spansFrom (start : Nat) : List Nat → Spans
  | outside :: inside :: rest =>
      let first := start + outside
      ⟨first, first + inside - 1⟩ :: spansFrom (first + inside) rest
  | _ => []

/-- The spans of a set that is kept as runs. -/
def Runs.spans (runs : Runs) : Spans := spansFrom 0 runs.lengths

/-- The runs that have a wanted label, starting at the code point `start`. -/
def Labels.spansFrom {α : Type} (wanted : α → Bool) (start : Nat) : List (α × Nat) → List Span
  | [] => []
  | (label, length) :: rest =>
      let behind := spansFrom wanted (start + length) rest
      if wanted label then ⟨start, start + length - 1⟩ :: behind else behind

/-- The spans of the code points that have a wanted label. -/
def Labels.spans {α : Type} (labels : Labels α) (wanted : α → Bool) : Spans :=
  .ofSorted (spansFrom wanted 0 labels.runs)

end JsonRules.Unicode
