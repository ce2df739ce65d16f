/-
# JsonRules.Proofs.CanonicalRuns -- all values of a run are canonical

Let `Good` be a property that operators do not lose (`Value.Invariant`).  If the literals of a rule
and the answers of the host have it, then so has every value that comes up in a run.  The values that
come up are those that the nodes of the rule give, and the records in whose scope bodies are run;
`Expr.evalWithin` looks at each of them, and where one is not good it leaves the rule for something
else, whatever that is.  Since this never happens, the run stays what it is (`Expr.evalWithin_eq`).

The property in question is to be canonical, for rules that are read and hosts with canonical
answers.  On the values that a rule can meet, strict equality of integers is then equality of
numbers (`Rule.values_are_canonical`).
-/
import JsonRules.Libraries
import JsonRules.Proofs.Canonical
import JsonRules.Proofs.Entries
import JsonRules.Proofs.Lookups

namespace JsonRules

set_option autoImplicit false

section

-- Whether a number fits a word is not worked out: the bounds are too large to count to.
attribute [local irreducible] Word.int? Word.uint?

/-! ## Answers -/

/-- All answers of a host satisfy `Good`. -/
def Host.Answers (host : Host) (Good : Value → Prop) : Prop :=
  ∀ name slot value, host name slot = some value → Good value

namespace Value.Invariant

variable {Good : Value → Prop}

theorem select? (invariant : Value.Invariant Good) {value found : Value} {key : List Char}
    (good : Good value) (selected : Path.select? value key = some found) : Good found := by
  unfold Path.select? at selected
  split at selected
  · exact invariant.entries good _ (Entries.mem_of_get? selected)
  · obtain ⟨index, -, stands⟩ := Option.bind_eq_some_iff.mp selected
    exact invariant.items good found (List.mem_of_getElem? stands)
  · cases selected

theorem follow (invariant : Value.Invariant Good) {parts : List (List Char)} :
    ∀ {value found : Value}, Good value → Path.follow value parts = some found → Good found := by
  induction parts with
  | nil =>
      intro value found good followed
      cases followed
      exact good
  | cons part rest ih =>
      intro value found good followed
      rw [Path.follow] at followed
      split at followed
      · cases followed
        exact good
      · split at followed
        · rename_i selected
          cases followed
          exact invariant.select? good selected
        · split at followed
          · cases followed
          · obtain ⟨inner, selected, followed⟩ := Option.bind_eq_some_iff.mp followed
            exact ih (invariant.select? good selected) followed

/-- What a path names in a good value is good. -/
theorem resolve? (invariant : Value.Invariant Good) {value found : Value} {path : String}
    (good : Good value) (resolved : Path.resolve? value path = some found) : Good found :=
  invariant.follow good resolved

theorem answers_record (invariant : Value.Invariant Good) {record : Value} (good : Good record) :
    (Host.record record).Answers Good := fun _ _ _ => invariant.resolve? good

/-- What is not there is null. -/
theorem getD_null (invariant : Value.Invariant Good) {answer : Option Value}
    (good : ∀ value, answer = some value → Good value) : Good (answer.getD .null) := by
  cases answer with
  | none => exact invariant.null
  | some value => exact good value rfl

end Value.Invariant

/-! ## Integers as numbers -/

namespace IntegerPair

/-- The first integer, as a number. -/
def first : IntegerPair → Int
  | .int a _ => a.toInt
  | .uint a _ => a.toNat

/-- The second integer, as a number. -/
def second : IntegerPair → Int
  | .int _ b => b.toInt
  | .uint _ b => b.toNat

/-- The integers of a pair are compared as numbers. -/
theorem order?_eq_iff (pair : IntegerPair) :
    Comparands.order? (.numbers (.integers pair)) = some .eq ↔ pair.first = pair.second := by
  cases pair with
  | int a b => simp [Comparands.order?, first, second]
  | uint a b =>
      have nat : Comparands.order? (.numbers (.integers (.uint a b))) = some .eq
          ↔ a.toNat = b.toNat := by simp [Comparands.order?]
      exact nat.trans Int.natCast_inj.symm

end IntegerPair

namespace Coercion

theorem unsigned_ok {op : Operator} {a : Int64} {w : UInt64} (ok : unsigned op a = .ok w) :
    (w.toNat : Int) = a.toInt := by
  unfold unsigned at ok
  split at ok
  · rename_i fits
    cases ok
    exact Word.uint?_eq_some_iff.mp fits
  · cases ok

theorem mixed_eq (op : Operator) (a : Int64) (b : UInt64) :
    mixed op a b
      = (Word.int? b.toNat).elim ((unsigned op a).map (.uint · b)) fun b => .ok (.int a b) := by
  -- opened as a function; opened at `a` and `b` it would have to be worked out, bounds and all
  have opened : ∀ f, f = mixed → f op a b
      = (Word.int? b.toNat).elim ((unsigned op a).map (.uint · b)) fun b => .ok (.int a b) := by
    intro f same
    delta mixed at same
    rw [same]
    beta_reduce
    cases Word.int? b.toNat with
    | some w => rfl
    | none => rfl
  exact opened mixed rfl

/-- Bringing a signed and an unsigned integer to one kind does not change them. -/
theorem mixed_ok {op : Operator} {a : Int64} {b : UInt64} {pair : IntegerPair}
    (ok : mixed op a b = .ok pair) : pair.first = a.toInt ∧ pair.second = b.toNat := by
  rw [mixed_eq] at ok
  cases fits : Word.int? b.toNat with
  | some w =>
      rw [fits] at ok
      cases ok
      exact ⟨rfl, Word.int?_eq_some_iff.mp fits⟩
  | none =>
      rw [fits] at ok
      obtain ⟨w, met, rfl⟩ := exists_of_map_eq_ok ok
      exact ⟨unsigned_ok met, rfl⟩

theorem first_swap (pair : IntegerPair) : (swap pair).first = pair.second := by cases pair <;> rfl

theorem second_swap (pair : IntegerPair) : (swap pair).second = pair.first := by cases pair <;> rfl

/-- Two integers meet as the numbers that they are. -/
theorem numbers?_integers {op : Operator} {a b : Scalar} {m n : Int} {pair? : Option NumberPair}
    (first : a.integer? = some m) (second : b.integer? = some n)
    (ok : numbers? op (.scalar a) (.scalar b) = .ok pair?) :
    ∃ pair, pair? = some (.integers pair) ∧ pair.first = m ∧ pair.second = n := by
  cases a with
  | null | bool | double | string => cases first
  | int v =>
      cases first
      cases b with
      | null | bool | double | string => cases second
      | int w =>
          cases second
          cases ok
          exact ⟨.int v w, rfl, rfl, rfl⟩
      | uint w =>
          cases second
          have meet : numbers? op (.int v) (.uint w)
              = (mixed op v w).map fun pair => some (.integers pair) := rfl
          rw [meet] at ok
          obtain ⟨pair, met, same⟩ := exists_of_map_eq_ok ok
          exact ⟨pair, same.symm, mixed_ok met⟩
  | uint v =>
      cases first
      cases b with
      | null | bool | double | string => cases second
      | int w =>
          cases second
          have meet : numbers? op (.uint v) (.int w)
              = (mixed op w v).map fun pair => some (.integers (swap pair)) := rfl
          rw [meet] at ok
          obtain ⟨pair, met, same⟩ := exists_of_map_eq_ok ok
          refine ⟨swap pair, same.symm, ?_⟩
          rw [first_swap, second_swap]
          exact (mixed_ok met).symm
      | uint w =>
          cases second
          cases ok
          exact ⟨.uint v w, rfl, rfl, rfl⟩

end Coercion

/-- The integer that a value is. -/
def Value.integer? : Value → Option Int
  | .scalar scalar => scalar.integer?
  | .array _ | .object _ => none

namespace Equality

variable {a b : Value} {m n : Int}

/-- Where the loose equality of two integers is no fault, it is equality of numbers. -/
theorem loose_integers (first : a.integer? = some m) (second : b.integer? = some n) {same : Bool}
    (ok : loose.test a b = .ok same) : same = decide (m = n) := by
  cases a with
  | array | object => cases first
  | scalar a =>
  cases b with
  | array | object => cases second
  | scalar b =>
  unfold test Coercion.comparands at ok
  cases met : Coercion.numbers? (.equality .loose) (.scalar a) (.scalar b) with
  | error fault =>
      simp only [met] at ok
      cases ok
  | ok pair? =>
      obtain ⟨pair, rfl, rfl, rfl⟩ := Coercion.numbers?_integers first second met
      simp only [met] at ok
      cases ok
      rw [Bool.eq_iff_iff, beq_iff_eq, decide_eq_true_iff, IntegerPair.order?_eq_iff]

/-- Between canonical values the strict equality of two integers is equality of numbers. -/
theorem strict_integers (canonical : a.IsCanonical) (canonical' : b.IsCanonical)
    (first : a.integer? = some m) (second : b.integer? = some n) :
    strict.test a b = .ok (decide (m = n)) := by
  cases a with
  | array | object => cases first
  | scalar a =>
  cases b with
  | array | object => cases second
  | scalar b =>
  exact congrArg Except.ok (Scalar.strictEq_of_isCanonical canonical canonical' first second)

end Equality

/-! ## Evaluation that looks at every value -/

variable [PatternEngine]

section Within

variable (Good : Value → Prop) [DecidablePred Good]

/-- The scope is that of the host, or of a good record. -/
def Scope.Within : Scope → Prop
  | .host _ => True
  | .element record => Good record

instance : DecidablePred (Scope.Within Good)
  | .host _ => isTrue trivial
  | .element record => inferInstanceAs (Decidable (Good record))

/-- Goes elsewhere if the scope, or the value that is worked out in it, is not good. -/
def Meaning.within (elsewhere meaning : Meaning) : Meaning := fun scope =>
  if scope.Within Good then do
    let value ← meaning scope
    if Good value then return value else elsewhere scope
  else elsewhere scope

mutual

/-- The meaning of a rule if it is left as soon as some scope or some value is not good. -/
def Expr.evalWithin (elsewhere : Meaning) : Expr → Meaning
  | .literal value => Meaning.within Good elsewhere fun _ => return value
  | .array items => Meaning.within Good elsewhere fun scope =>
      return .array (← Meaning.each (evalEachWithin elsewhere items) scope)
  | .var name slot =>
      Meaning.within Good elsewhere (Meaning.var (name.evalWithin elsewhere) slot)
  | .regex pattern subject compiled =>
      Meaning.within Good elsewhere
        (Meaning.matching (pattern.evalWithin elsewhere) (subject.evalWithin elsewhere) compiled)
  | .call op operands =>
      Meaning.within Good elsewhere (Meaning.ofOperator op (evalEachWithin elsewhere operands))

def Expr.evalEachWithin (elsewhere : Meaning) : List Expr → List Meaning
  | [] => []
  | e :: rest => e.evalWithin elsewhere :: evalEachWithin elsewhere rest

end

theorem Expr.evalEachWithin_eq (elsewhere : Meaning) (operands : List Expr) :
    evalEachWithin Good elsewhere operands = operands.map (evalWithin Good elsewhere) := by
  induction operands with
  | nil => rfl
  | cons e rest ih => rw [evalEachWithin, ih, List.map_cons]

end Within

/-! ## No value is left out -/

/-- What is logged satisfies `Good`. -/
def Event.Logs (Good : Value → Prop) : Event → Prop
  | .log value => Good value
  | .lookup _ _ => True

/-- The literal of a node satisfies `Good`. -/
def Expr.LiteralIs (Good : Value → Prop) : Expr → Prop
  | .literal value => Good value
  | _ => True

/-- Equal runs of good values. -/
def Simulation.within {Good : Value → Prop} (invariant : Value.Invariant Good) : Simulation :=
  { Simulation.same (Event.Logs Good) with Good, invariant }

section Runs

variable {Good : Value → Prop} (invariant : Value.Invariant Good) {host : Host}

namespace Simulation

omit [PatternEngine] in
include invariant in
theorem logs_within : (within invariant).Logs := by
  intro value good
  refine ⟨rfl, fun event member => ?_⟩
  obtain rfl := List.mem_singleton.mp member
  exact good

omit [PatternEngine] in
theorem asks_within (answers : host.Answers Good) : (within invariant).Asks host host := by
  intro σ τ paired name slot
  cases paired with
  | host =>
      refine ⟨⟨rfl, fun event member => ?_⟩, ?_⟩
      · obtain rfl : event = .lookup name slot := by
          simpa [Scope.lookup, Bind.bind, Run.bind, Run.emit, Pure.pure, Run.pure] using member
        trivial
      · rintro _ ⟨⟩
        exact invariant.getD_null (answers name slot)
  | element good => exact .pure (invariant.getD_null fun _ => invariant.resolve? good)

variable [DecidablePred Good] (elsewhere : Meaning)

omit [PatternEngine] in
/-- Nothing is left where everything is good. -/
theorem alike_within {m n : Meaning} (alike : (within invariant).Alike host host m n) :
    (within invariant).Alike host host m (Meaning.within Good elsewhere n) := by
  intro σ τ paired
  have inside : τ.Within Good := by
    cases paired with
    | host => trivial
    | element good => exact good
  rw [Meaning.within, if_pos inside, ← bind_pure (m σ)]
  refine (alike paired).bind fun value good => ?_
  have kept : (if Good value then pure value else elsewhere τ) = (pure value : Run Value) :=
    if_pos good
  rw [kept]
  exact .pure good

theorem alike_evalWithin (answers : host.Answers Good) {e : Expr}
    (literals : e.Everywhere (Expr.LiteralIs Good)) :
    (within invariant).Alike host host e.eval (e.evalWithin Good elsewhere) := by
  have eachOf {items : List Expr}
      (ih : ∀ e ∈ items, e.Everywhere (Expr.LiteralIs Good) →
        (within invariant).Alike host host e.eval (e.evalWithin Good elsewhere))
      (all : ∀ e ∈ items, e.Everywhere (Expr.LiteralIs Good)) :
      List.Forall₂ ((within invariant).Alike host host) (items.map Expr.eval)
        (items.map (Expr.evalWithin Good elsewhere)) :=
    forall₂_map fun e member => ih e member (all e member)
  induction e using Expr.induct with
  | literal value =>
      have good : Good value := (Expr.everywhere_literal value).mp literals
      exact alike_within invariant elsewhere fun _ _ _ => .pure good
  | array items ih =>
      have all := (Expr.everywhere_array items).mp literals
      rw [Expr.evalWithin, Expr.evalEachWithin_eq]
      refine alike_within invariant elsewhere fun σ τ paired => ?_
      rw [Expr.eval, Expr.evalEach_eq]
      exact (each (eachOf ih all.2) paired).bind fun _ goods => .pure (invariant.array goods)
  | var name slot ih =>
      have all := (Expr.everywhere_var name slot).mp literals
      exact alike_within invariant elsewhere
        (var (asks_within invariant answers) (ih all.2) slot)
  | regex pattern subject compiled ihPattern ihSubject =>
      have all := (Expr.everywhere_regex pattern subject compiled).mp literals
      exact alike_within invariant elsewhere
        (matching (ihPattern all.2.1) (ihSubject all.2.2) compiled)
  | call op operands ih =>
      have all := (Expr.everywhere_call op operands).mp literals
      rw [Expr.eval, Expr.evalEach_eq, Expr.evalWithin, Expr.evalEachWithin_eq]
      exact alike_within invariant elsewhere
        (ofOperator (fun _ => asks_within invariant answers) (fun _ => logs_within invariant)
          (eachOf ih all.2))

end Simulation

variable [DecidablePred Good]

include invariant in
/-- Every value that comes up in a run is good, and so are the result and what is logged. -/
theorem Expr.evalWithin_eq (answers : host.Answers Good) {e : Expr}
    (literals : e.Everywhere (LiteralIs Good)) :
    (∀ elsewhere, e.evalWithin Good elsewhere (.host host) = e.eval (.host host)) ∧
      (∀ value, (e.eval (.host host)).outcome = .ok value → Good value) ∧
      ∀ value ∈ (e.eval (.host host)).logged, Good value := by
  have ends (elsewhere : Meaning) :=
    Simulation.alike_evalWithin invariant elsewhere answers literals .host
  refine ⟨fun elsewhere => (ends elsewhere).related.1.symm, (ends e.eval).result, ?_⟩
  intro value logged
  obtain ⟨event, member, same⟩ := List.mem_filterMap.mp logged
  have good := (ends e.eval).related.2 event member
  cases event with
  | log _ =>
      cases same
      exact good
  | lookup name slot => cases same

end Runs

namespace Rule

/-- The literals of a rule come from JSON. -/
theorem literals_isCanonical {json : Json} {rule : Rule} (read : ofJson json = .ok rule) :
    rule.root.Everywhere (Expr.LiteralIs Value.IsCanonical) := by
  refine (compiled_of_ofJson read).imp fun node compiled => ?_
  cases node with
  | literal value =>
      obtain ⟨scalar, rfl⟩ := compiled
      exact Scalar.isCanonical_ofJson scalar
  | _ => trivial

/-- **All values are canonical.**  If a host gives canonical values, as a record of JSON data does,
then nothing else comes up in a run of a rule: neither as the value of a node, nor in the record in
whose scope a body is run, which is an element or holds what a reduction has come to.  So strict
equality of integers is equality of numbers, and loose equality agrees with it unless it is a
fault. -/
theorem values_are_canonical {json : Json} {rule : Rule} (read : ofJson json = .ok rule)
    {host : Host} (answers : host.Answers Value.IsCanonical) :
    (∀ elsewhere : Meaning,
      rule.root.evalWithin Value.IsCanonical elsewhere (.host host) = rule.run host) ∧
    (∀ value, (rule.run host).outcome = .ok value → value.IsCanonical) ∧
    (∀ value ∈ (rule.run host).logged, value.IsCanonical) ∧
    (∀ data : Json, (Host.record (.ofJson data)).Answers Value.IsCanonical) ∧
    ∀ (a b : Value) (m n : Int), a.IsCanonical → b.IsCanonical →
      a.integer? = some m → b.integer? = some n →
        Equality.strict.test a b = .ok (decide (m = n)) ∧
          ∀ same, Equality.loose.test a b = .ok same → same = decide (m = n) := by
  have invariant := Value.invariant_isCanonical
  obtain ⟨within, result, logged⟩ :=
    Expr.evalWithin_eq invariant answers (literals_isCanonical read)
  refine ⟨within, result, logged, fun data => ?_, ?_⟩
  · exact invariant.answers_record (Value.isCanonical_ofJson data)
  · intro a b m n canonical canonical' first second
    exact ⟨Equality.strict_integers canonical canonical' first second,
      fun same ok => Equality.loose_integers first second ok⟩

end Rule

end

namespace Rule

/-- Subtracts numbers, one after the other, from the least integer that is unsigned. -/
def countdown : Rule where
  root := .call .reduce
    [.var (.literal (.string "ns")) (some 0),
      .call (.arithmetic .minus)
        [.call .log [.var (.literal (.string "accumulator")) (some 1)],
          .var (.literal (.string "current")) (some 2)],
      .call (.fold .sum) [.literal (.string "9223372036854775808")]]
  table :=
    { names := ["ns", "accumulator", "current"]
      slots := [("accumulator", 1), ("current", 2), ("ns", 0)] }

/-- The accumulator is unsigned for two rounds; the last difference is signed again. -/
theorem values_are_canonical_countdown :
    let host := Host.record (.object [("ns", .array [Value.int 0, Value.int 1])])
    ofJson countdown.toJson = .ok countdown ∧ host.Answers Value.IsCanonical ∧
      (countdown.run host).logged = [.uint 9223372036854775808, .uint 9223372036854775808] ∧
      (countdown.run host).outcome = .ok (.int 9223372036854775807) ∧
      countdown.root.evalWithin Value.IsCanonical (fun _ => Run.fault (.arity .log 0))
        (.host host) = countdown.run host ∧
      Equality.strict.test (.uint 9223372036854775808) (.int 9223372036854775807) = .ok false := by
  intro host
  have read : ofJson countdown.toJson = .ok countdown := by decide
  have answers : host.Answers Value.IsCanonical :=
    Value.invariant_isCanonical.answers_record (by decide)
  obtain ⟨within, -, -, -, equality⟩ := values_are_canonical read answers
  have unequal := equality (.uint 9223372036854775808) (.int 9223372036854775807)
    9223372036854775808 9223372036854775807
    (by decide +kernel) (by decide +kernel) (by decide +kernel) (by decide +kernel)
  exact ⟨read, answers, by decide +kernel, by decide +kernel, within _, unequal.1⟩

end Rule

end JsonRules
