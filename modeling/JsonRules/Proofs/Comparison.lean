/-
# JsonRules.Proofs.Comparison -- the six comparisons

Loose equality, its negation and the four relations bring their operands to one kind in the same way
and then ask one question: how does the first compare with the second?  They differ only in the
answers that they take for a yes (`Comparison.holds`), and in the operator that a fault names.

So what holds of the comparands holds of all six.  Two integers compare as the numbers that they
are, in whatever kinds they come, and do not compare at all if they are apart
(`Comparison.integers_compare_as_numbers`).  And the six are consistent with each other for all
values: they have the same faults, they can be turned around, and unless there is a NaN exactly one
of less, equal and greater is true (`Comparison.comparisons_are_consistent`).
-/
import JsonRules.Libraries
import JsonRules.Proofs.Order

namespace JsonRules

set_option autoImplicit false

-- Powers are the built-in ones, also where Mathlib is imported.
attribute [local instance (high)] instPowNat

-- Whether a number fits a word is not worked out: the bounds are too large to count to.
attribute [local irreducible] Word.int? Word.uint?

/-! ## Six questions about an order -/

/-- A comparison of two values that are brought to one kind. -/
inductive Comparison where
  | equal
  | unequal
  | related (relation : Relation)
  deriving DecidableEq

namespace Comparison

def operator : Comparison → Operator
  | equal => .equality .loose
  | unequal => .equality .looseNot
  | related relation => .relation relation

/-- The comparison that asks the same of the operands in the other order. -/
def mirror : Comparison → Comparison
  | equal => equal
  | unequal => unequal
  | related .less => related .greater
  | related .lessEq => related .greaterEq
  | related .greater => related .less
  | related .greaterEq => related .lessEq

/-- The answer of a comparison, from how the first compares with the second, if it does. -/
def holds : Comparison → Option Ordering → Bool
  | equal, order => order == some .eq
  | unequal, order => order != some .eq
  | related relation, order => order.any relation.holds

/-- The answer of a comparison for two integers. -/
def ofIntegers : Comparison → Int → Int → Bool
  | equal, m, n => m = n
  | unequal, m, n => m ≠ n
  | related .less, m, n => m < n
  | related .lessEq, m, n => m ≤ n
  | related .greater, m, n => n < m
  | related .greaterEq, m, n => n ≤ m

theorem holds_mirror (c : Comparison) (order : Option Ordering) :
    c.mirror.holds (order.map Ordering.swap) = c.holds order := by
  rcases c with _ | _ | _ | _ | _ | _ <;> rcases order with _ | _ | _ | _ <;> rfl

theorem holds_compare (c : Comparison) (m n : Int) :
    c.holds (some (compare m n)) = c.ofIntegers m n := by
  rcases Int.lt_trichotomy m n with less | rfl | greater
  · have different : m ≠ n := Int.ne_of_lt less
    rw [Int.compare_eq_lt.mpr less]
    rcases c with _ | _ | _ | _ | _ | _ <;>
      simp [holds, ofIntegers, Relation.holds, less, different, Int.le_of_lt less]
  · rw [Int.compare_eq_eq.mpr rfl]
    rcases c with _ | _ | _ | _ | _ | _ <;> simp [holds, ofIntegers, Relation.holds]
  · have different : m ≠ n := Int.ne_of_gt greater
    rw [Int.compare_eq_gt.mpr greater]
    rcases c with _ | _ | _ | _ | _ | _ <;>
      simp [holds, ofIntegers, Relation.holds, greater, different, Int.le_of_lt greater]

/-- Less than or equal is one of the two, also where there is no answer. -/
theorem holds_lessEq (order : Option Ordering) :
    (related .lessEq).holds order = ((related .less).holds order || equal.holds order) := by
  rcases order with _ | _ | _ | _ <;> rfl

theorem holds_greaterEq (order : Option Ordering) :
    (related .greaterEq).holds order = ((related .greater).holds order || equal.holds order) := by
  rcases order with _ | _ | _ | _ <;> rfl

theorem count_holds (order : Ordering) :
    [(related .less).holds (some order), equal.holds (some order),
      (related .greater).holds (some order)].count true = 1 := by
  cases order <;> rfl

theorem holds_none {c : Comparison} (plain : c ≠ unequal) : c.holds none = false := by
  cases c with
  | equal | related => rfl
  | unequal => exact absurd rfl plain

end Comparison

/-! ## Comparing values -/

namespace Comparison

variable {a b : Value}

/-- The comparison of two values. -/
def test (c : Comparison) (a b : Value) : Except Fault Bool :=
  (Coercion.comparands c.operator a b).map fun pair => c.holds pair.order?

theorem test_equal (a b : Value) : Equality.loose.test a b = equal.test a b :=
  bind_pure_comp _ _

theorem test_unequal (a b : Value) : Equality.looseNot.test a b = unequal.test a b :=
  bind_pure_comp _ _

theorem test_related (relation : Relation) (a b : Value) :
    relation.test a b = (related relation).test a b :=
  bind_pure_comp _ _

/-- The outcome of a comparison of two operands. -/
def outcome [PatternEngine] (c : Comparison) (x y : Expr) (scope : Scope) : Except Fault Value :=
  ((Expr.call c.operator [x, y]).eval scope).outcome

theorem outcome_eq [PatternEngine] (c : Comparison) {scope : Scope} {x y : Expr}
    (left : (x.eval scope).outcome = .ok a) (right : (y.eval scope).outcome = .ok b) :
    c.outcome x y scope = (c.test a b).map fun answer => .bool answer := by
  cases c with
  | equal =>
      show (Meaning.equality .loose x.eval y.eval scope).outcome = _
      rw [Meaning.equality, Run.outcome_bind_ok _ left, Run.outcome_bind_ok _ right,
        Run.outcome_bind, ← test_equal]
      exact bind_pure_comp _ _
  | unequal =>
      show (Meaning.equality .looseNot x.eval y.eval scope).outcome = _
      rw [Meaning.equality, Run.outcome_bind_ok _ left, Run.outcome_bind_ok _ right,
        Run.outcome_bind, ← test_unequal]
      exact bind_pure_comp _ _
  | related relation =>
      show (Meaning.relation relation x.eval y.eval none scope).outcome = _
      rw [Meaning.relation, Run.outcome_bind_ok _ left, Run.outcome_bind_ok _ right,
        Run.outcome_bind, ← test_related]
      show (relation.test a b >>= _) = (relation.test a b).map _
      rcases relation.test a b with fault | (_ | _) <;> rfl

end Comparison

/-! ## Integers -/

namespace Comparison

variable {a b : Value} {m n : Int}

theorem comparands_of_numbers? {op : Operator} {pair : NumberPair}
    (met : Coercion.numbers? op a b = .ok (some pair)) :
    Coercion.comparands op a b = .ok (.numbers pair) := by
  unfold Coercion.comparands
  rw [met]
  rfl

theorem comparands_of_error {op : Operator} {fault : Fault}
    (failed : Coercion.numbers? op a b = .error fault) :
    Coercion.comparands op a b = .error fault := by
  unfold Coercion.comparands
  rw [failed]
  rfl

/-- Integers that meet are compared as numbers. -/
theorem test_integers (c : Comparison) (first : a.integer? = some m)
    (second : b.integer? = some n) (close : ¬ Coercion.Apart m n) :
    c.test a b = .ok (c.ofIntegers m n) := by
  obtain ⟨pair, met, rfl, rfl⟩ := Coercion.exists_numbers? c.operator first second close
  rw [test, comparands_of_numbers? met]
  show Except.ok (c.holds (Comparands.order? (.numbers (.integers pair)))) = _
  rw [IntegerPair.order?_integers, holds_compare]

theorem test_apart (c : Comparison) (first : a.integer? = some m)
    (second : b.integer? = some n) (apart : Coercion.Apart m n) :
    c.test a b = .error (.range c.operator (Int64.ofInt (min m n))) := by
  rw [test, comparands_of_error (Coercion.numbers?_apart c.operator first second apart)]
  rfl

/-- **Integers compare as numbers.**  Each of the six comparisons gives for two integers, signed or
unsigned in whatever form, the answer for the numbers.  It is a fault exactly if one is negative and
the other too large for a signed word, and the fault tells the negative one. -/
theorem integers_compare_as_numbers [PatternEngine] (c : Comparison) (scope : Scope) {x y : Expr}
    {m n : Int} (left : x.eval.Gives scope m) (right : y.eval.Gives scope n) :
    c.outcome x y scope
      = if Coercion.Apart m n then .error (.range c.operator (Int64.ofInt (min m n)))
        else .ok (.bool (c.ofIntegers m n)) := by
  obtain ⟨a, ranLeft, first⟩ := left
  obtain ⟨b, ranRight, second⟩ := right
  rw [outcome_eq c ranLeft ranRight]
  by_cases apart : Coercion.Apart m n
  · rw [if_pos apart, test_apart c first second apart]
    rfl
  · rw [if_neg apart, test_integers c first second apart]
    rfl

/-- A small number in unsigned form beside a negative one, which meet, and a large one beside it,
which do not. -/
theorem integers_compare_as_numbers_mixed :
    let scope : Scope := .element .null
    let negative : Expr := .literal (.int (-1))
    let small : Expr := .literal (.uint 5)
    let large : Expr := .literal (.uint 9223372036854775808)
    negative.eval.Gives scope (-1) ∧ small.eval.Gives scope 5 ∧
      large.eval.Gives scope 9223372036854775808 ∧
      (related .less).outcome negative small scope = .ok (.bool true) ∧
      (related .less).outcome negative large scope = .error (.range (.relation .less) (-1)) := by
  intro scope negative small large
  have first : negative.eval.Gives scope (-1) := ⟨_, rfl, by decide +kernel⟩
  have second : small.eval.Gives scope 5 := ⟨_, rfl, by decide +kernel⟩
  have third : large.eval.Gives scope 9223372036854775808 := ⟨_, rfl, by decide +kernel⟩
  refine ⟨first, second, third, ?_, ?_⟩
  · exact integers_compare_as_numbers (related .less) scope first second
  · exact integers_compare_as_numbers (related .less) scope first third

end Comparison

/-! ## Faults of comparisons -/

/-- What a fault is about, whatever operator and values it is about. -/
inductive Fault.Reason where
  | type
  | coercion
  | range
  | regex
  | arity
  deriving DecidableEq

def Fault.reason : Fault → Fault.Reason
  | type _ _ => .type
  | coercion _ _ => .coercion
  | range _ _ => .range
  | regex _ => .regex
  | arity _ _ => .arity

namespace Coercion

/-- Two values are brought to one kind in the same way for all operators and in either order, and
where this fails it does so for one reason. -/
theorem comparands_swap (op op' : Operator) (a b : Value) :
    (comparands op' b a).mapError Fault.reason
      = ((comparands op a b).mapError Fault.reason).map Comparands.swap := by
  rcases a with (_ | _ | v | v | v | s) | _ | _ <;> rcases b with (_ | _ | w | w | w | t) | _ | _
  -- A signed integer beside an unsigned one: whether they meet is a matter of the two words.
  case scalar.int.scalar.uint =>
    unfold comparands numbers?
    simp only [mixed_eq, unsigned_eq]
    cases Word.int? w.toNat <;> cases Word.uint? v.toInt <;> rfl
  case scalar.uint.scalar.int =>
    unfold comparands numbers?
    simp only [mixed_eq, unsigned_eq]
    cases Word.int? v.toNat <;> cases Word.uint? w.toInt <;> rfl
  all_goals try rfl
  -- A text beside a number: it is a matter of the text.
  all_goals
    unfold comparands numbers?
    dsimp only [bind, Except.bind]
  case scalar.int.scalar.string => cases parseInt t <;> rfl
  case scalar.uint.scalar.string => cases parseUInt t <;> rfl
  case scalar.double.scalar.string => cases parseDouble t <;> rfl
  case scalar.string.scalar.int => cases parseInt s <;> rfl
  case scalar.string.scalar.uint => cases parseUInt s <;> rfl
  case scalar.string.scalar.double => cases parseDouble s <;> rfl

/-- The operator shows only in the fault. -/
theorem comparands_operator (op op' : Operator) (a b : Value) :
    (comparands op' a b).mapError Fault.reason = (comparands op a b).mapError Fault.reason := by
  rw [comparands_swap op op' b a, comparands_swap op op a b]
  rcases comparands op a b with fault | pair
  · rfl
  · exact congrArg Except.ok (Comparands.swap_swap pair)

variable {op : Operator} {a b : Value}

/-- What one operator brings to one kind, all do. -/
theorem comparands_of_ok {pair : Comparands} (met : comparands op a b = .ok pair)
    (op' : Operator) : comparands op' a b = .ok pair := by
  have same := comparands_operator op op' a b
  rw [met] at same
  cases other : comparands op' a b with
  | error fault =>
      rw [other] at same
      cases same
  | ok pair' =>
      rw [other] at same
      exact congrArg Except.ok (Except.ok.inj same)

theorem exists_comparands_error {fault : Fault} (failed : comparands op a b = .error fault)
    (op' : Operator) : ∃ fault', comparands op' a b = .error fault' := by
  cases other : comparands op' a b with
  | error fault' => exact ⟨fault', rfl⟩
  | ok pair =>
      rw [comparands_of_ok other op] at failed
      cases failed

end Coercion

/-! ## Consistency -/

namespace Comparison

/-- What the answers to the six comparisons of two comparands have to do with each other. -/
structure Consistent (pair : Comparands) (answer : Comparison → Bool) : Prop where
  unequal : answer unequal = !answer equal
  lessEq : answer (related .lessEq) = (answer (related .less) || answer equal)
  greaterEq : answer (related .greaterEq) = (answer (related .greater) || answer equal)
  /-- Nothing but being unequal is true of a NaN. -/
  nan : pair.HasNaN → ∀ c, c ≠ Comparison.unequal → answer c = false
  one : ¬ pair.HasNaN →
    [answer (related .less), answer equal, answer (related .greater)].count true = 1

theorem consistent_holds (pair : Comparands) :
    Consistent pair fun c => c.holds pair.order? where
  unequal := rfl
  lessEq := holds_lessEq _
  greaterEq := holds_greaterEq _
  nan hasNaN c plain := by
    rw [(Comparands.order?_eq_none_iff pair).mpr hasNaN]
    exact holds_none plain
  one noNaN := by
    cases found : pair.order? with
    | none => exact absurd ((Comparands.order?_eq_none_iff pair).mp found) noNaN
    | some order => exact count_holds order

section

variable [PatternEngine] {scope : Scope} {x y : Expr} {a b : Value}

/-- The outcome of a comparison, but for what its fault tells. -/
theorem mapError_outcome (c : Comparison)
    (left : (x.eval scope).outcome = .ok a) (right : (y.eval scope).outcome = .ok b) :
    (c.outcome x y scope).mapError Fault.reason
      = ((Coercion.comparands c.operator a b).mapError Fault.reason).map
          fun pair => .bool (c.holds pair.order?) := by
  rw [outcome_eq c left right, test]
  rcases Coercion.comparands c.operator a b with fault | pair <;> rfl

/-- A comparison and its mirror image have one answer, or both fail for one reason. -/
theorem mirror_outcome (c : Comparison)
    (left : (x.eval scope).outcome = .ok a) (right : (y.eval scope).outcome = .ok b) :
    (c.mirror.outcome y x scope).mapError Fault.reason
      = (c.outcome x y scope).mapError Fault.reason := by
  rw [mapError_outcome c.mirror right left, mapError_outcome c left right,
    Coercion.comparands_swap c.operator c.mirror.operator a b]
  rcases Coercion.comparands c.operator a b with fault | pair
  · rfl
  · show Except.ok (Value.bool (c.mirror.holds pair.swap.order?)) = .ok (.bool _)
    rw [Comparands.order?_swap, holds_mirror]

/-- **The six comparisons are consistent.**  For any two values each comparison has the answer of
its mirror image for the values in the other order, or both are faults for one reason.  And either
all six are faults, or all six bring the values to the same comparands and have answers for them
that are consistent. -/
theorem comparisons_are_consistent (scope : Scope) {x y : Expr} {a b : Value}
    (left : (x.eval scope).outcome = .ok a) (right : (y.eval scope).outcome = .ok b) :
    (∀ c : Comparison, (c.mirror.outcome y x scope).mapError Fault.reason
      = (c.outcome x y scope).mapError Fault.reason) ∧
    ((∀ c : Comparison, ∃ fault, c.outcome x y scope = .error fault) ∨
      ∃ (pair : Comparands) (answer : Comparison → Bool),
        (∀ c : Comparison, Coercion.comparands c.operator a b = .ok pair ∧
          c.outcome x y scope = .ok (.bool (answer c))) ∧
        Consistent pair answer) := by
  refine ⟨fun c => mirror_outcome c left right, ?_⟩
  cases met : Coercion.comparands equal.operator a b with
  | error fault =>
      left
      intro c
      obtain ⟨fault', failed⟩ := Coercion.exists_comparands_error met c.operator
      refine ⟨fault', ?_⟩
      rw [outcome_eq c left right, test, failed]
      rfl
  | ok pair =>
      right
      refine ⟨pair, fun c => c.holds pair.order?, ?_, consistent_holds pair⟩
      intro c
      have met' := Coercion.comparands_of_ok met c.operator
      refine ⟨met', ?_⟩
      rw [outcome_eq c left right, test, met']
      rfl

end

/-- A text beside a number is compared as a number, in either order; and a NaN beside a number is
unequal to it and nothing else. -/
theorem comparisons_are_consistent_text_nan :
    let scope : Scope := .element .null
    let text : Expr := .literal (.string "9")
    let number : Expr := .literal (.int 10)
    let nan : Expr := .literal (.double (0.0 / 0.0))
    (text.eval scope).outcome = .ok (.string "9") ∧
      (number.eval scope).outcome = .ok (.int 10) ∧
      (nan.eval scope).outcome = .ok (.double (0.0 / 0.0)) ∧
      (related .less).outcome text number scope = .ok (.bool true) ∧
      ((related .greater).outcome number text scope).mapError Fault.reason = .ok (.bool true) ∧
      ∀ c : Comparison, c.outcome nan number scope = .ok (.bool (decide (c = unequal))) := by
  intro scope text number nan
  have first : (text.eval scope).outcome = .ok (.string "9") := rfl
  have second : (number.eval scope).outcome = .ok (.int 10) := rfl
  have third : (nan.eval scope).outcome = .ok (.double (0.0 / 0.0)) := rfl
  have less : (related .less).outcome text number scope = .ok (.bool true) := by decide +kernel
  have mirrored := (comparisons_are_consistent scope first second).1 (related .less)
  rw [less] at mirrored
  refine ⟨first, second, third, less, mirrored, ?_⟩
  rcases (comparisons_are_consistent scope third second).2 with faults | ⟨pair, answer, runs, fits⟩
  · obtain ⟨fault, failed⟩ := faults equal
    cases failed
  · have hasNaN : pair.HasNaN := by
      cases (runs equal).1
      exact .inl (by decide +kernel)
    intro c
    rw [(runs c).2]
    by_cases plain : c = unequal
    · rw [plain, fits.unequal, fits.nan hasNaN equal nofun]
      rfl
    · rw [fits.nan hasNaN c plain, decide_eq_false plain]

end Comparison

end JsonRules
