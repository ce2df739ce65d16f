/-
# JsonRules.Proofs.Lookups -- what a rule asks its host

A rule lists the variables that it names, and says whether it computes the name of any other.
This module proves that the list is complete: a run asks the host only for what the table of
the rule lists (`NameTable.Lists`), whatever the host answers and however the run ends.  Two
hosts that agree on the listed variables therefore cannot be told apart (`eval_congr`).

Both facts are one simulation, `Simulation.same`: equal runs whose events all satisfy a
predicate.
-/
import JsonRules.Libraries
import JsonRules.Proofs.Compiled
import JsonRules.Proofs.Simulation

namespace JsonRules

set_option autoImplicit false

section

/-- Runs that are equal and in which only certain things happen. -/
def Simulation.same (p : Event → Prop) : Simulation where
  Rel r s := r = s ∧ ∀ event ∈ r.events, p event
  ofExcept outcome := ⟨rfl, by simp [Run.ofExcept]⟩
  bind {α β r s f g} first next := by
    obtain ⟨rfl, events⟩ := first
    obtain ⟨before, outcome⟩ := r
    cases outcome with
    | error fault => exact ⟨rfl, events⟩
    | ok x =>
        obtain ⟨same, later⟩ := next x rfl
        constructor
        · simp only [Bind.bind, Run.bind, same]
        · intro event member
          rcases List.mem_append.mp member with first | second
          · exact events event first
          · exact later event second

/-- What a rule with this table may ask: a name in its slot, or, without a slot, the whole record;
if some name is computed, any name without a slot. -/
def NameTable.Lists (table : NameTable) (name : String) (slot : Option Nat) : Prop :=
  (∃ k, slot = some k ∧ table.names[k]? = some name) ∨
    slot = none ∧ (table.hasComputed = false → name = "")

variable [PatternEngine]

theorem NameTable.Places.lists {table : NameTable} {operand : Expr} {slot : Option Nat}
    (places : table.Places operand slot) {name : String} (named : Simulation.MayName operand name) :
    table.Lists name slot := by
  cases view : operand.naming with
  | spelled spelled =>
      obtain ⟨k, same, stands⟩ := (NameTable.places_spelled view).mp places
      obtain ⟨-, rfl⟩ := Expr.naming_eq_spelled_iff.mp view
      cases named
      exact .inl ⟨k, same, stands⟩
  | record =>
      have unplaced := (NameTable.places_record view).mp places
      rcases Expr.naming_eq_record_iff.mp view with rfl | rfl <;> cases named
      · exact .inr ⟨unplaced, fun _ => rfl⟩
      · exact .inr ⟨unplaced, fun _ => rfl⟩
  | computed =>
      obtain ⟨unplaced, known⟩ := (NameTable.places_computed view).mp places
      exact .inr ⟨unplaced, fun closed => absurd known (by simp [closed])⟩

/-- A compiled rule looks up only what its table lists. -/
theorem looksUp_of_compiled {table : NameTable} {e : Expr}
    (compiled : e.Everywhere table.Compiled) :
    e.Everywhere (Simulation.LooksUp table.Lists) := by
  refine compiled.imp fun node compiled => ?_
  cases node with
  | literal value => trivial
  | array items => trivial
  | regex pattern subject compiled => trivial
  | var operand slot => exact fun name named => NameTable.Places.lists compiled named
  | call op operands =>
      rintro rfl
      rcases compiled with short | ⟨notVar, -⟩
      · simp [Operator.leastOperands] at short
      · exact notVar rfl

/-- Nothing is asked for that is not listed. -/
def NameTable.ListsEvent (table : NameTable) : Event → Prop
  | .lookup name slot => table.Lists name slot
  | .log _ => True

/-- Hosts that agree on what is listed give one run, in which nothing else is asked for. -/
theorem eval_congr {table : NameTable} {e : Expr} (compiled : e.Everywhere table.Compiled)
    {a b : Host} (agree : ∀ name slot, table.Lists name slot → a name slot = b name slot) :
    e.eval (.host a) = e.eval (.host b) ∧
      ∀ name slot, .lookup name slot ∈ (e.eval (.host a)).events → table.Lists name slot := by
  let S := Simulation.same table.ListsEvent
  have logs : S.Logs := fun value _ => ⟨rfl, by simp [Run.emit, NameTable.ListsEvent]⟩
  have lookups {σ τ : Scope} (paired : Scope.Paired S.Good a b σ τ) (name : String)
      (slot : Option Nat) (lists : table.Lists name slot) :
      S.Ends S.Good (σ.lookup name slot) (τ.lookup name (slot.map id)) := by
    rw [Option.map_id_apply]
    cases paired with
    | host =>
        refine ⟨⟨?_, ?_⟩, fun _ _ => trivial⟩
        · simp only [Scope.lookup, agree name slot lists]
        · intro event member
          obtain rfl : event = .lookup name slot := by
            simpa [Scope.lookup, bind, Run.bind, Run.emit, pure, Run.pure] using member
          exact lists
    | element => exact .pure trivial
  have same := (Simulation.eval_renumber (S := S) (fun _ => trivial) logs id lookups e
    (looksUp_of_compiled compiled) .host).related
  rw [Expr.renumber_id] at same
  exact ⟨same.1, fun name slot asked => same.2 _ asked⟩

omit [PatternEngine] in
theorem Run.mem_lookups_iff {α : Type} {run : Run α} {name : String} {slot : Option Nat} :
    (name, slot) ∈ run.lookups ↔ .lookup name slot ∈ run.events := by
  simp only [lookups, List.mem_filterMap]
  constructor
  · rintro ⟨_ | _, member, same⟩
    · cases same
      exact member
    · cases same
  · intro member
    exact ⟨_, member, rfl⟩

namespace Rule

/-- **The table of a rule is complete.**  Whatever the host answers, a run asks only for listed
names in their slots and, without a slot, for the whole record or for a computed name.  A rule
without computed names runs alike on hosts that agree on the listed names and on the whole
record. -/
theorem asks_only_what_is_listed {json : Json} {rule : Rule} (read : ofJson json = .ok rule) :
    (∀ (host : Host) (name : String) (slot : Option Nat), (name, slot) ∈ (rule.run host).lookups →
      (∃ k, slot = some k ∧ rule.table.names[k]? = some name) ∨
        slot = none ∧ (rule.table.hasComputed = false → name = "")) ∧
    (rule.table.hasComputed = false → ∀ a b : Host,
      (∀ k name, rule.table.names[k]? = some name → a name (some k) = b name (some k)) →
      a "" none = b "" none → rule.run a = rule.run b) := by
  have compiled := compiled_of_ofJson read
  constructor
  · intro host name slot asked
    exact (eval_congr compiled fun _ _ _ => rfl).2 name slot (Run.mem_lookups_iff.mp asked)
  · intro closed a b agree agreeRecord
    refine (eval_congr compiled ?_).1
    rintro name slot (⟨k, rfl, stands⟩ | ⟨rfl, record⟩)
    · exact agree k name stands
    · rw [record closed, agreeRecord]

end Rule

end

namespace Rule

/-- A greeting that asks for a user, logs the whole record, and then comes to an operator with too
few operands. -/
def brokenGreeting : Rule where
  root := .call (.fold .concat)
    [.var (.literal (.string "user")) (some 0), .call .log [.var (.literal .null) none],
      .call (.equality .loose) [.var (.literal (.string "user")) (some 0)]]
  table := { names := ["user"], slots := [("user", 0)] }

/-- A host that knows a user and a record, and gives `rest` for everything else. -/
def greetingHost (rest : Option Value) : Host := fun name _ =>
  if name = "user" then some (.string "Ada") else if name = "" then some (.int 1) else rest

/-- The table is complete for a run that ends with a fault, too. -/
theorem asks_only_what_is_listed_brokenGreeting :
    ofJson brokenGreeting.toJson = .ok brokenGreeting ∧
      (brokenGreeting.run (greetingHost none)).lookups = [("user", some 0), ("", none)] ∧
      (brokenGreeting.run (greetingHost none)).outcome = .error (.arity (.equality .loose) 1) ∧
      ((∃ k, some 0 = some k ∧ brokenGreeting.table.names[k]? = some "user") ∨
        some 0 = none ∧ (brokenGreeting.table.hasComputed = false → "user" = "")) ∧
      brokenGreeting.run (greetingHost none) = brokenGreeting.run (greetingHost (some .null)) := by
  have read : ofJson brokenGreeting.toJson = .ok brokenGreeting := by decide
  have lookups : (brokenGreeting.run (greetingHost none)).lookups
      = [("user", some 0), ("", none)] := by decide
  have complete := asks_only_what_is_listed read
  refine ⟨read, lookups, by decide, complete.1 (greetingHost none) "user" (some 0) ?_,
    complete.2 rfl _ _ ?_ rfl⟩
  · rw [lookups]
    exact List.mem_cons_self
  · intro k name stands
    obtain ⟨-, rfl⟩ : k = 0 ∧ "user" = name := by
      simpa [brokenGreeting, List.getElem?_cons] using stands
    rfl

end Rule

end JsonRules
