/-
# JsonRules.Proofs.Simulation -- what all operators keep

The meaning of an operator is put together from the meanings of its operands by sequencing
runs, and it never looks into an operand.  So it keeps every relation between runs that
sequencing keeps: that is the content of this module, stated once for all such relations.

A `Simulation` is a relation of this kind, together with what is known of all values that come
up, if anything is; that operators do not lose this is `Value.Invariant`.  On its right side there
may be computations of another kind than runs, in which events have other effects.  Related runs
of which the left one has a result with a property are written `S.Ends p r s`.

Two meanings are `Alike` if they give related runs, one with a host `a` and the other with a
host `b`, and also in the scope of any element.  `Alike` is kept by one operator after the other
(`Simulation.ofOperator`), so two rules are alike as soon as their variables are
(`Simulation.eval_renumber`).  Two operators do more than put runs in sequence: a log line has to
be related to itself (`Simulation.Logs`), and so does a question to the host (`Simulation.Asks`).
-/
import JsonRules.Evaluation
import JsonRules.Proofs.Tree
import Mathlib.Data.List.Forall2
import Mathlib.Data.Option.Basic

namespace JsonRules

set_option autoImplicit false

/-- What operators make of good values is good. -/
structure Value.Invariant (Good : Value → Prop) : Prop where
  null : Good .null
  bool : ∀ value, Good (.bool value)
  string : ∀ text, Good (.string text)
  zero : Good (.int 0)
  array : ∀ {items}, (∀ item ∈ items, Good item) → Good (.array items)
  items : ∀ {items}, Good (.array items) → ∀ item ∈ items, Good item
  entries : ∀ {entries}, Good (.object entries) → ∀ entry ∈ entries, Good entry.2
  reduction : ∀ {accumulator current}, Good accumulator → Good current →
    Good (.object [("accumulator", accumulator), ("current", current)])
  combine : ∀ {step a b value}, Good a → Good b → Meaning.combine step a b = .ok value → Good value
  convert : ∀ {step a value}, Good a → Meaning.convert step a = .ok value → Good value
  join : ∀ {step a b value}, Good a → Good b → Meaning.join step a b = .ok value → Good value

theorem Value.Invariant.true : Value.Invariant fun _ => True := by
  constructor <;> intros <;> trivial

/-- The scopes in which two runs are compared: two hosts, or one and the same element. -/
inductive Scope.Paired (Good : Value → Prop) (a b : Host) : Scope → Scope → Prop where
  | host : Paired Good a b (.host a) (.host b)
  | element {record : Value} (good : Good record) :
      Paired Good a b (.element record) (.element record)

theorem liftM_ok {M : Type → Type} [Monad M] [MonadLift (Except Fault) M]
    [LawfulMonadLift (Except Fault) M] {α : Type} (result : α) :
    (liftM (Except.ok result : Except Fault α) : M α) = pure result := liftM_pure result

/-- A relation between runs and computations that sequencing keeps, and what is known of all
values. -/
structure Simulation (M : Type → Type := Run) [Monad M] [LawfulMonad M]
    [MonadLift (Except Fault) M] [LawfulMonadLift (Except Fault) M] [Emits M] where
  Good : Value → Prop := fun _ => True
  invariant : Value.Invariant Good := by exact .true
  Rel : {α : Type} → Run α → M α → Prop
  ofExcept : ∀ {α : Type} (outcome : Except Fault α), Rel (Run.ofExcept outcome) (liftM outcome)
  bind : ∀ {α β : Type} {r : Run α} {s : M α} {f : α → Run β} {g : α → M β}, Rel r s →
    (∀ x, r.outcome = .ok x → Rel (f x) (g x)) → Rel (r >>= f) (s >>= g)

namespace Simulation

section Kept

variable {M : Type → Type} [Monad M] [LawfulMonad M]
  [MonadLift (Except Fault) M] [LawfulMonadLift (Except Fault) M] [Emits M]

/-- Related runs, of which the first can end with a result only if this satisfies `p`. -/
structure Ends {α : Type} (S : Simulation M) (p : α → Prop) (r : Run α) (s : M α) :
    Prop where
  related : S.Rel r s
  result : ∀ x, r.outcome = .ok x → p x

/-- Related runs in all paired scopes. -/
def Alike (S : Simulation M) (a b : Host) (m : Meaning) (n : Meaning M) : Prop :=
  ∀ ⦃σ τ : Scope⦄, Scope.Paired S.Good a b σ τ → S.Ends S.Good (m σ) (n τ)

/-- A log line is related to itself. -/
def Logs (S : Simulation M) : Prop :=
  ∀ value, S.Good value → S.Rel (Run.emit (.log value)) (Emits.emit (.log value))

/-- Whatever is looked up, in whatever slot, is related. -/
def Asks (S : Simulation M) (a b : Host) : Prop :=
  ∀ ⦃σ τ : Scope⦄, Scope.Paired S.Good a b σ τ → ∀ name slot,
    S.Ends S.Good (σ.lookup name slot) (τ.lookup name slot)

variable {S : Simulation M} {a b : Host} {α β : Type}

/-- What is related for every host is related in every scope: an element does not care for the host,
so any host will do. -/
theorem related_of_alike {m : Meaning} {n : Meaning M} (any : ∀ value, S.Good value)
    (alike : ∀ host, S.Alike host host m n) (scope : Scope) : S.Rel (m scope) (n scope) := by
  cases scope with
  | host host => exact (alike host .host).related
  | element record => exact (alike (.record record) (.element (any record))).related

/-! ## Sequences of runs -/

namespace Ends

variable {p : α → Prop} {q : β → Prop}

theorem pure {x : α} (holds : p x) : S.Ends p (pure x) (Pure.pure x) where
  related := by
    rw [← liftM_ok (M := M)]
    exact S.ofExcept (.ok x)
  result := by
    rintro _ ⟨⟩
    exact holds

/-- A step that is the same in both runs. -/
theorem step {outcome : Except Fault α} (holds : ∀ x, outcome = .ok x → p x) :
    S.Ends p (Run.ofExcept outcome) (liftM outcome) where
  related := S.ofExcept outcome
  result := holds

/-- A step of whose result nothing need be known. -/
theorem any (outcome : Except Fault α) :
    S.Ends (fun _ => True) (Run.ofExcept outcome) (liftM outcome) :=
  step fun _ _ => trivial

theorem bind {r : Run α} {s : M α} {f : α → Run β} {g : α → M β} (first : S.Ends p r s)
    (next : ∀ x, p x → S.Ends q (f x) (g x)) : S.Ends q (r >>= f) (s >>= g) where
  related := S.bind first.related fun x ended => (next x (first.result x ended)).related
  result := by
    obtain ⟨events, outcome⟩ := r
    intro y ended
    cases outcome with
    | error fault => cases ended
    | ok x => exact (next x (first.result x rfl)).result y ended

theorem mapM {f : α → Run β} {g : α → M β}
    (each : ∀ x, p x → S.Ends q (f x) (g x)) {xs : List α} (all : ∀ x ∈ xs, p x) :
    S.Ends (fun ys => ∀ y ∈ ys, q y) (xs.mapM f) (xs.mapM g) := by
  induction xs with
  | nil => exact .pure (List.forall_mem_nil q)
  | cons x rest ih =>
      obtain ⟨here, later⟩ := List.forall_mem_cons.mp all
      rw [List.mapM_cons, List.mapM_cons]
      refine (each x here).bind fun y good => (ih later).bind fun ys goods => ?_
      exact .pure (List.forall_mem_cons.mpr ⟨good, goods⟩)

theorem foldlM {γ δ : Type} {R : γ → δ → Prop} {f : α → γ → Run α} {g : α → δ → M α}
    (each : ∀ acc x y, p acc → R x y → S.Ends p (f acc x) (g acc y)) {xs : List γ}
    {ys : List δ} (all : List.Forall₂ R xs ys) {start : α} (good : p start) :
    S.Ends p (xs.foldlM f start) (ys.foldlM g start) := by
  induction all generalizing start with
  | nil => exact .pure good
  | cons first rest ih =>
      rw [List.foldlM_cons, List.foldlM_cons]
      exact (each start _ _ good first).bind fun acc good => ih good

theorem anyM {f : α → Run Bool} {g : α → M Bool}
    (each : ∀ x, p x → S.Ends (fun _ => True) (f x) (g x)) {xs : List α} (all : ∀ x ∈ xs, p x) :
    S.Ends (fun _ => True) (xs.anyM f) (xs.anyM g) := by
  induction xs with
  | nil => exact .pure trivial
  | cons x rest ih =>
      obtain ⟨here, later⟩ := List.forall_mem_cons.mp all
      simp only [List.anyM]
      refine (each x here).bind fun holds _ => ?_
      cases holds with
      | true => exact .pure trivial
      | false => exact ih later

theorem allM {f : α → Run Bool} {g : α → M Bool}
    (each : ∀ x, p x → S.Ends (fun _ => True) (f x) (g x)) {xs : List α} (all : ∀ x ∈ xs, p x) :
    S.Ends (fun _ => True) (xs.allM f) (xs.allM g) := by
  induction xs with
  | nil => exact .pure trivial
  | cons x rest ih =>
      obtain ⟨here, later⟩ := List.forall_mem_cons.mp all
      simp only [List.allM]
      refine (each x here).bind fun holds _ => ?_
      cases holds with
      | true => exact ih later
      | false => exact .pure trivial

end Ends

/-! ## Operands -/

/-- Operands are alike if each of them is. -/
theorem forall₂_map [PatternEngine] {f : Expr → Meaning} {g : Expr → Meaning M} {items : List Expr}
    (each : ∀ e ∈ items, S.Alike a b (f e) (g e)) :
    List.Forall₂ (S.Alike a b) (items.map f) (items.map g) := by
  rw [List.forall₂_map_left_iff, List.forall₂_map_right_iff, List.forall₂_same]
  exact each

theorem each {ms : List Meaning} {ns : List (Meaning M)} (all : List.Forall₂ (S.Alike a b) ms ns)
    {σ τ : Scope} (paired : Scope.Paired S.Good a b σ τ) :
    S.Ends (fun values => ∀ value ∈ values, S.Good value) (Meaning.each ms σ)
      (Meaning.each ns τ) := by
  unfold Meaning.each
  induction all with
  | nil => exact .pure (List.forall_mem_nil _)
  | cons first rest ih =>
      rw [List.mapM_cons, List.mapM_cons]
      refine (first paired).bind fun value good => ih.bind fun values goods => ?_
      exact .pure (List.forall_mem_cons.mpr ⟨good, goods⟩)

theorem truth (op : Operator) {m : Meaning} {n : Meaning M} (alike : S.Alike a b m n) {σ τ : Scope}
    (paired : Scope.Paired S.Good a b σ τ) :
    S.Ends (fun _ => True) (Meaning.truth op m σ) (Meaning.truth op n τ) :=
  (alike paired).bind fun _ _ => .any _

theorem elements (op : Operator) {m : Meaning} {n : Meaning M} (alike : S.Alike a b m n)
    {σ τ : Scope} (paired : Scope.Paired S.Good a b σ τ) :
    S.Ends (fun items => ∀ item ∈ items, S.Good item) (Meaning.elements op m σ)
      (Meaning.elements op n τ) := by
  refine (alike paired).bind fun value good => .step fun items taken => ?_
  unfold Coercion.toElements at taken
  split at taken
  · cases taken
    exact S.invariant.items good
  · cases taken
    exact List.forall_mem_nil _
  · cases taken

theorem countIfAny (op : Operator) {m : Option Meaning} {n : Option (Meaning M)}
    (alike : Option.Rel (S.Alike a b) m n) {σ τ : Scope} (paired : Scope.Paired S.Good a b σ τ) :
    S.Ends (fun _ => True) (Meaning.countIfAny op m σ) (Meaning.countIfAny op n τ) := by
  cases alike with
  | none => exact .pure trivial
  | some alike =>
      refine Ends.bind (p := fun _ => True) ?_ fun _ _ => .pure trivial
      exact (alike paired).bind fun _ _ => .any _

/-! ## One operator after the other -/

section Operators

variable {m m₁ m₂ : Meaning} {n n₁ n₂ : Meaning M} {ms : List Meaning} {ns : List (Meaning M)}

theorem short (op : Operator) (found : Nat) :
    S.Alike a b (Meaning.short op found) (Meaning.short op found) :=
  fun _ _ _ => .step fun _ ended => by cases ended

theorem var (asks : S.Asks a b) (name : S.Alike a b m n) (slot : Option Nat) :
    S.Alike a b (Meaning.var m slot) (Meaning.var n slot) := by
  intro σ τ paired
  refine (name paired).bind fun value _ => (Ends.any _).bind fun name _ => ?_
  exact asks paired name slot

theorem logged (logs : S.Logs) (alike : S.Alike a b m n) :
    S.Alike a b (Meaning.log m) (Meaning.log n) := by
  intro σ τ paired
  refine (alike paired).bind fun value good => ?_
  have line : S.Ends (fun _ => True) (Run.emit (.log value)) (Emits.emit (.log value)) :=
    ⟨logs value good, fun _ _ => trivial⟩
  exact line.bind fun _ _ => .pure good

theorem equality (kind : Equality) (first : S.Alike a b m₁ n₁) (second : S.Alike a b m₂ n₂) :
    S.Alike a b (Meaning.equality kind m₁ m₂) (Meaning.equality kind n₁ n₂) := by
  intro σ τ paired
  refine (first paired).bind fun x _ => (second paired).bind fun y _ => ?_
  exact (Ends.any _).bind fun same _ => .pure (S.invariant.bool same)

theorem relation (kind : Relation) (first : S.Alike a b m₁ n₁) (second : S.Alike a b m₂ n₂)
    {m₃ : Option Meaning} {n₃ : Option (Meaning M)} (third : Option.Rel (S.Alike a b) m₃ n₃) :
    S.Alike a b (Meaning.relation kind m₁ m₂ m₃) (Meaning.relation kind n₁ n₂ n₃) := by
  intro σ τ paired
  refine (first paired).bind fun x _ => (second paired).bind fun y _ => ?_
  refine (Ends.any _).bind fun holds _ => ?_
  cases holds with
  | false => exact .pure (S.invariant.bool false)
  | true =>
      cases third with
      | none => exact .pure (S.invariant.bool true)
      | some third =>
          refine (third paired).bind fun z _ => (Ends.any _).bind fun both _ => ?_
          exact .pure (S.invariant.bool both)

theorem junction (kind : Junction) (all : List.Forall₂ (S.Alike a b) ms ns) :
    S.Alike a b (Meaning.junction kind ms) (Meaning.junction kind ns) := by
  intro σ τ paired
  induction all with
  | nil => exact short _ 0 paired
  | @cons m n ms ns first rest ih =>
      refine (first paired).bind fun value good => (Ends.any _).bind fun truth _ => ?_
      -- whether an operand is the last one does not depend on its meaning
      have sameEnd : ms.isEmpty = ns.isEmpty := by cases rest <;> rfl
      rw [sameEnd]
      split
      · exact .pure good
      · exact ih

theorem cond (all : List.Forall₂ (S.Alike a b) ms ns) :
    S.Alike a b (Meaning.cond ms) (Meaning.cond ns) := by
  intro σ τ paired
  induction ms using Meaning.cond.induct generalizing ns with
  | case1 condition branch rest ih =>
      obtain _ | ⟨first, _ | ⟨second, others⟩⟩ := all
      refine (truth .cond first paired).bind fun holds _ => ?_
      cases holds with
      | true => exact second paired
      | false => exact ih others
  | case2 otherwise =>
      obtain _ | ⟨first, _ | _⟩ := all
      exact first paired
  | case3 =>
      cases all
      exact .pure S.invariant.null

theorem arithmetic (step : Arithmetic) {m₁ : Option Meaning} {n₁ : Option (Meaning M)}
    (first : Option.Rel (S.Alike a b) m₁ n₁) (second : S.Alike a b m₂ n₂) :
    S.Alike a b (Meaning.arithmetic step m₁ m₂) (Meaning.arithmetic step n₁ n₂) := by
  intro σ τ paired
  have onward (x : Value) (good : S.Good x) :
      S.Ends S.Good (m₂ σ >>= fun y => Run.ofExcept (Meaning.combine step x y))
        (n₂ τ >>= fun y => liftM (Meaning.combine step x y)) :=
    (second paired).bind fun y good' => .step fun _ ended => S.invariant.combine good good' ended
  cases first with
  | none => exact (Ends.pure S.invariant.zero).bind onward
  | some first => exact (first paired).bind onward

theorem folded (step : Fold) (alike : S.Alike a b m n) {σ τ : Scope}
    (paired : Scope.Paired S.Good a b σ τ) :
    S.Ends S.Good (Meaning.folded step m σ) (Meaning.folded step n τ) :=
  (alike paired).bind fun _ good => .step fun _ ended => S.invariant.convert good ended

theorem fold (step : Fold) (all : List.Forall₂ (S.Alike a b) ms ns) :
    S.Alike a b (Meaning.fold step ms) (Meaning.fold step ns) := by
  intro σ τ paired
  cases all with
  | nil => exact short _ 0 paired
  | cons first rest =>
      refine (folded step first paired).bind fun start good => ?_
      refine Ends.foldlM (fun acc m n good alike => ?_) rest good
      refine (folded step alike paired).bind fun value good' => ?_
      exact .step fun _ ended => S.invariant.join good good' ended

theorem member (needle : S.Alike a b m₁ n₁) (haystack : S.Alike a b m₂ n₂)
    (others : List.Forall₂ (S.Alike a b) ms ns) :
    S.Alike a b (Meaning.member m₁ m₂ ms) (Meaning.member n₁ n₂ ns) := by
  intro σ τ paired
  refine (needle paired).bind fun x _ => (haystack paired).bind fun container _ => ?_
  -- the operands beyond the second are run for what they ask and log
  refine (each others paired).bind fun _ _ => ?_
  exact (Ends.any _).bind fun contained _ => .pure (S.invariant.bool contained)

theorem substring (text : S.Alike a b m n) {m₁ m₂ : Option Meaning}
    {n₁ n₂ : Option (Meaning M)}
    (start : Option.Rel (S.Alike a b) m₁ n₁) (length : Option.Rel (S.Alike a b) m₂ n₂) :
    S.Alike a b (Meaning.substring m m₁ m₂) (Meaning.substring n n₁ n₂) := by
  intro σ τ paired
  refine (text paired).bind fun value _ => (Ends.any _).bind fun chars _ => ?_
  refine (countIfAny _ start paired).bind fun from? _ => ?_
  exact (countIfAny _ length paired).bind fun count? _ => .pure (S.invariant.string _)

theorem holds (op : Operator) (body : S.Alike a b m n) (element : Value) (good : S.Good element) :
    S.Ends (fun _ => True) (Meaning.holds op m element) (Meaning.holds op n element) :=
  truth op body (.element good)

theorem keepWhere {f : Value → Run Bool} {g : Value → M Bool}
    (each : ∀ x, S.Good x → S.Ends (fun _ => True) (f x) (g x)) {items : List Value}
    (all : ∀ item ∈ items, S.Good item) :
    S.Ends (fun kept => ∀ item ∈ kept, S.Good item) (Meaning.keepWhere f items)
      (Meaning.keepWhere g items) := by
  induction items with
  | nil => exact .pure (List.forall_mem_nil _)
  | cons item rest ih =>
      obtain ⟨here, later⟩ := List.forall_mem_cons.mp all
      refine (each item here).bind fun holds _ => (ih later).bind fun kept goods => ?_
      refine .pure ?_
      cases holds with
      | true => exact List.forall_mem_cons.mpr ⟨here, goods⟩
      | false => exact goods

theorem map (array : S.Alike a b m₁ n₁) (body : S.Alike a b m₂ n₂) :
    S.Alike a b (Meaning.map m₁ m₂) (Meaning.map n₁ n₂) := by
  intro σ τ paired
  refine (elements _ array paired).bind fun items good => ?_
  have bodies := Ends.mapM (fun item good => body (.element good)) good
  exact bodies.bind fun _ goods => .pure (S.invariant.array goods)

theorem filter (array : S.Alike a b m₁ n₁) (body : S.Alike a b m₂ n₂) :
    S.Alike a b (Meaning.filter m₁ m₂) (Meaning.filter n₁ n₂) := by
  intro σ τ paired
  refine (elements _ array paired).bind fun items good => ?_
  exact (keepWhere (holds _ body) good).bind fun _ goods => .pure (S.invariant.array goods)

theorem reduce (array : S.Alike a b m₁ n₁) (body : S.Alike a b m₂ n₂) {m₃ : Option Meaning}
    {n₃ : Option (Meaning M)} (initial : Option.Rel (S.Alike a b) m₃ n₃) :
    S.Alike a b (Meaning.reduce m₁ m₂ m₃) (Meaning.reduce n₁ n₂ n₃) := by
  intro σ τ paired
  refine (elements _ array paired).bind fun items goods => ?_
  have steps (start : Value) (good : S.Good start) : S.Ends S.Good
      (items.foldlM (fun acc current => m₂ (Scope.reduction acc current)) start)
      (items.foldlM (fun acc current => n₂ (Scope.reduction acc current)) start) := by
    refine Ends.foldlM (R := fun x y => x = y ∧ S.Good x) ?_ ?_ good
    · rintro acc current _ good ⟨rfl, good'⟩
      exact body (.element (S.invariant.reduction good good'))
    · exact List.forall₂_same.mpr fun item member => ⟨rfl, goods item member⟩
  cases initial with
  | none => exact (Ends.pure S.invariant.null).bind steps
  | some initial => exact (initial paired).bind steps

theorem quantify (kind : Quantifier) {f : Value → Run Bool} {g : Value → M Bool}
    (each : ∀ x, S.Good x → S.Ends (fun _ => True) (f x) (g x)) {items : List Value}
    (all : ∀ item ∈ items, S.Good item) :
    S.Ends (fun _ => True) (Meaning.quantify kind f items) (Meaning.quantify kind g items) := by
  cases kind with
  | all =>
      simp only [Meaning.quantify]
      split
      · exact .pure trivial
      · exact .allM each all
  | none => exact (Ends.anyM each all).bind fun _ _ => .pure trivial
  | some => exact .anyM each all

theorem quantifier (kind : Quantifier) (array : S.Alike a b m₁ n₁) (body : S.Alike a b m₂ n₂) :
    S.Alike a b (Meaning.quantifier kind m₁ m₂) (Meaning.quantifier kind n₁ n₂) := by
  intro σ τ paired
  refine (elements _ array paired).bind fun items goods => ?_
  refine (quantify kind (holds _ body) goods).bind fun decided _ => ?_
  exact .pure (S.invariant.bool decided)

theorem head? (all : List.Forall₂ (S.Alike a b) ms ns) :
    Option.Rel (S.Alike a b) ms.head? ns.head? := by
  cases all with
  | nil => exact .none
  | cons first rest => exact .some first

variable [PatternEngine]

theorem matching (pattern : S.Alike a b m₁ n₁) (subject : S.Alike a b m₂ n₂)
    (compiled : Option Pattern) :
    S.Alike a b (Meaning.matching m₁ m₂ compiled) (Meaning.matching n₁ n₂ compiled) := by
  intro σ τ paired
  refine (pattern paired).bind fun spelled _ => (subject paired).bind fun _ _ => ?_
  refine (Ends.any _).bind fun text _ => ?_
  have onward (pattern : Pattern) (_ : True) :
      S.Ends S.Good (return .bool (pattern.isMatch text)) (return .bool (pattern.isMatch text)) :=
    .pure (S.invariant.bool _)
  cases compiled with
  | some compiled => exact (Ends.pure trivial).bind onward
  | none => exact (Ends.any _).bind onward

/-- The meaning of an operator keeps what the meanings of its operands have in common. -/
theorem ofOperator {op : Operator} (asks : op = .var → S.Asks a b) (logs : op = .log → S.Logs)
    (all : List.Forall₂ (S.Alike a b) ms ns) :
    S.Alike a b (Meaning.ofOperator op ms) (Meaning.ofOperator op ns) := by
  cases op with
  | var =>
      obtain _ | ⟨first, rest⟩ := all
      · exact fun _ _ paired => asks rfl paired "" none
      · exact var (asks rfl) first none
  | junction kind => exact junction kind all
  | cond => exact cond all
  | fold step => exact fold step all
  | equality kind =>
      obtain _ | ⟨first, _ | ⟨second, rest⟩⟩ := all
      · exact short _ 0
      · exact short _ 1
      · exact equality kind first second
  | relation kind =>
      obtain _ | ⟨first, _ | ⟨second, rest⟩⟩ := all
      · exact short _ 0
      · exact short _ 1
      · exact relation kind first second (head? rest)
  | not =>
      obtain _ | ⟨first, rest⟩ := all
      · exact short _ 0
      · exact fun _ _ paired =>
          (truth .not first paired).bind fun holds _ => .pure (S.invariant.bool !holds)
  | truth =>
      obtain _ | ⟨first, rest⟩ := all
      · exact short _ 0
      · exact fun _ _ paired =>
          (truth .truth first paired).bind fun holds _ => .pure (S.invariant.bool holds)
  | log =>
      obtain _ | ⟨first, rest⟩ := all
      · exact short _ 0
      · exact logged (logs rfl) first
  | arithmetic step =>
      obtain _ | ⟨first, _ | ⟨second, rest⟩⟩ := all
      · exact short _ 0
      · exact arithmetic step .none first
      · exact arithmetic step (.some first) second
  | map =>
      obtain _ | ⟨first, _ | ⟨second, rest⟩⟩ := all
      · exact short _ 0
      · exact short _ 1
      · exact map first second
  | filter =>
      obtain _ | ⟨first, _ | ⟨second, rest⟩⟩ := all
      · exact short _ 0
      · exact short _ 1
      · exact filter first second
  | reduce =>
      obtain _ | ⟨first, _ | ⟨second, rest⟩⟩ := all
      · exact short _ 0
      · exact short _ 1
      · exact reduce first second (head? rest)
  | quantifier kind =>
      obtain _ | ⟨first, _ | ⟨second, rest⟩⟩ := all
      · exact short _ 0
      · exact short _ 1
      · exact quantifier kind first second
  | member =>
      obtain _ | ⟨first, _ | ⟨second, rest⟩⟩ := all
      · exact short _ 0
      · exact short _ 1
      · exact member first second rest
  | substring =>
      obtain _ | ⟨first, _ | ⟨second, rest⟩⟩ := all
      · exact short _ 0
      · exact substring first .none .none
      · exact substring first (.some second) (head? rest)
  | regex =>
      obtain _ | ⟨first, _ | ⟨second, rest⟩⟩ := all
      · exact short _ 0
      · exact short _ 1
      · exact matching first second none

end Operators

end Kept

/-! ## Rules -/

section Rules

variable [PatternEngine] {S : Simulation} {a b : Host}

/-- The texts that an operand may give as a name. -/
def MayName : Expr → String → Prop
  | .literal value, name => Meaning.nameOf value = .ok name
  | _, _ => True

/-- A variable is looked up only as `P` allows; no other node looks anything up. -/
def LooksUp (P : String → Option Nat → Prop) : Expr → Prop
  | .var operand slot => ∀ name, MayName operand name → P name slot
  | .call op _ => op ≠ .var
  | _ => True

theorem eval_var (f : Nat → Nat) {P : String → Option Nat → Prop}
    (lookups : ∀ {σ τ}, Scope.Paired S.Good a b σ τ → ∀ name slot, P name slot →
      S.Ends S.Good (σ.lookup name slot) (τ.lookup name (slot.map f)))
    {operand : Expr} {slot : Option Nat} (allowed : LooksUp P (.var operand slot))
    (alike : S.Alike a b operand.eval (operand.renumber f).eval) :
    S.Alike a b (Meaning.var operand.eval slot)
      (Meaning.var (operand.renumber f).eval (slot.map f)) := by
  intro σ τ paired
  cases operand with
  | literal value =>
      -- the name of a literal is known before the run
      show S.Ends S.Good (Run.ofExcept (Meaning.nameOf value) >>= fun name => σ.lookup name slot)
        (Run.ofExcept (Meaning.nameOf value) >>= fun name => τ.lookup name (slot.map f))
      have named : S.Ends (fun name => Meaning.nameOf value = .ok name)
          (Run.ofExcept (Meaning.nameOf value)) (Run.ofExcept (Meaning.nameOf value)) :=
        .step fun name known => known
      exact named.bind fun name known => lookups paired name slot (allowed name known)
  | _ =>
      refine (alike paired).bind fun value _ => (Ends.any _).bind fun name _ => ?_
      exact lookups paired name slot (allowed name trivial)

/-- Rules that are equal but for the numbers of their slots are alike if their variables are. -/
theorem eval_renumber (any : ∀ value, S.Good value) (logs : S.Logs) (f : Nat → Nat)
    {P : String → Option Nat → Prop}
    (lookups : ∀ {σ τ}, Scope.Paired S.Good a b σ τ → ∀ name slot, P name slot →
      S.Ends S.Good (σ.lookup name slot) (τ.lookup name (slot.map f))) (e : Expr)
    (allowed : e.Everywhere (LooksUp P)) : S.Alike a b e.eval (e.renumber f).eval := by
  have eachOf {items : List Expr} (ih : ∀ e ∈ items, e.Everywhere (LooksUp P) →
      S.Alike a b e.eval (e.renumber f).eval) (all : ∀ e ∈ items, e.Everywhere (LooksUp P)) :
      List.Forall₂ (S.Alike a b) (items.map Expr.eval)
        ((items.map (Expr.renumber f)).map Expr.eval) := by
    rw [List.map_map]
    exact forall₂_map fun e member => ih e member (all e member)
  induction e using Expr.induct with
  | literal value =>
      intro σ τ _
      exact .pure (any value)
  | array items ih =>
      intro σ τ paired
      have all := (Expr.everywhere_array items).mp allowed
      simp only [Expr.renumber, Expr.renumberEach_eq, Expr.eval, Expr.evalEach_eq]
      exact (each (eachOf ih all.2) paired).bind fun values _ => .pure (any (.array values))
  | var name slot ih =>
      intro σ τ paired
      have all := (Expr.everywhere_var name slot).mp allowed
      exact eval_var f lookups all.1 (ih all.2) paired
  | regex pattern subject compiled ihPattern ihSubject =>
      intro σ τ paired
      have all := (Expr.everywhere_regex pattern subject compiled).mp allowed
      exact matching (ihPattern all.2.1) (ihSubject all.2.2) compiled paired
  | call op operands ih =>
      intro σ τ paired
      have all := (Expr.everywhere_call op operands).mp allowed
      simp only [Expr.renumber, Expr.renumberEach_eq, Expr.eval, Expr.evalEach_eq]
      have notVar : op ≠ .var := all.1
      exact ofOperator (fun same => absurd same notVar) (fun _ => logs) (eachOf ih all.2) paired

end Rules

end Simulation

end JsonRules
