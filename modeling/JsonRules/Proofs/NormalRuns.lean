/-
# JsonRules.Proofs.NormalRuns -- the normal form of a rule means the same

Reading the normal form of a rule gives the rule with other numbers in its slots.  A host that
pays no attention to slots cannot tell the two apart: their runs end alike and log the same
values (`Run.Indistinct`), although they ask with other slots (`Simulation.visible`).

A row of values does pay attention to slots, but every rule comes with its own order of names.
For a rule without computed names a row in that order is the host that knows each value by its
name (`eval_positional`), and this host pays no attention to slots again.
-/
import JsonRules.Libraries
import JsonRules.Proofs.Lookups
import JsonRules.Proofs.Normal

namespace JsonRules

set_option autoImplicit false

section

/-! ## What can be seen of a run without its questions -/

/-- Runs that end alike and log the same values, and so write the same text to any sink. -/
structure Run.Indistinct {α : Type} (r s : Run α) : Prop where
  outcome : r.outcome = s.outcome
  logged : r.logged = s.logged

theorem Run.Indistinct.symm {α : Type} {r s : Run α} (same : r.Indistinct s) : s.Indistinct r :=
  ⟨same.outcome.symm, same.logged.symm⟩

theorem Run.Indistinct.trans {α : Type} {r s t : Run α} (first : r.Indistinct s)
    (second : s.Indistinct t) : r.Indistinct t :=
  ⟨first.outcome.trans second.outcome, first.logged.trans second.logged⟩

/-- Sequencing keeps what can be seen. -/
theorem Run.Indistinct.bind {α β : Type} {r s : Run α} {f g : α → Run β} (first : r.Indistinct s)
    (next : ∀ x, r.outcome = .ok x → (f x).Indistinct (g x)) :
    (r >>= f).Indistinct (s >>= g) := by
  obtain ⟨events, outcome⟩ := r
  obtain ⟨others, outcome'⟩ := s
  obtain rfl : outcome = outcome' := first.outcome
  have logged : Run.logged ⟨events, outcome⟩ = Run.logged ⟨others, outcome⟩ := first.logged
  cases outcome with
  | error fault => exact ⟨rfl, logged⟩
  | ok x =>
      refine ⟨(next x rfl).outcome, ?_⟩
      have later := (next x rfl).logged
      simp only [Run.logged, Bind.bind, Run.bind, List.filterMap_append] at logged later ⊢
      rw [logged, later]

/-- Runs that cannot be told apart but for what they ask. -/
def Simulation.visible : Simulation where
  Rel r s := r.Indistinct s
  ofExcept _ := ⟨rfl, rfl⟩
  bind := Run.Indistinct.bind

/-! ## Hosts that pay no attention to slots -/

variable [PatternEngine]

theorem indistinct_renumber {table : NameTable} {e : Expr} (compiled : e.Everywhere table.Compiled)
    (f : Nat → Nat) {host : Host} (blind : ∀ name slot slot', host name slot = host name slot') :
    (e.eval (.host host)).Indistinct ((e.renumber f).eval (.host host)) := by
  have logs : Simulation.visible.Logs := fun _ _ => ⟨rfl, rfl⟩
  have lookups {σ τ : Scope} (paired : Scope.Paired Simulation.visible.Good host host σ τ)
      (name : String) (slot : Option Nat) (_ : table.Lists name slot) :
      Simulation.visible.Ends Simulation.visible.Good (σ.lookup name slot)
        (τ.lookup name (slot.map f)) := by
    cases paired with
    | host =>
        refine ⟨⟨?_, rfl⟩, fun _ _ => trivial⟩
        show Except.ok ((host name slot).getD .null) = .ok ((host name (slot.map f)).getD .null)
        rw [blind name slot (slot.map f)]
    | element => exact .pure trivial
  exact (Simulation.eval_renumber (S := .visible) (fun _ => trivial) logs f lookups e
    (looksUp_of_compiled compiled) .host).related

/-- Rules that are equal but for the numbers of their slots cannot be told apart by such a host. -/
theorem indistinct_of_unnumbered {table table' : NameTable} {e e' : Expr}
    (compiled : e.Everywhere table.Compiled) (compiled' : e'.Everywhere table'.Compiled)
    (same : e'.unnumbered = e.unnumbered) {host : Host}
    (blind : ∀ name slot slot', host name slot = host name slot') :
    (e'.eval (.host host)).Indistinct (e.eval (.host host)) := by
  have wiped := indistinct_renumber compiled (fun _ => 0) blind
  have wiped' := indistinct_renumber compiled' (fun _ => 0) blind
  exact wiped'.trans ((congrArg (fun e : Expr => e.eval (.host host)) same) ▸ wiped.symm)

/-! ## Rows of values -/

/-- The variable computes its name. -/
def Expr.IsComputed : Expr → Prop
  | .var name _ => name.naming = .computed
  | _ => False

theorem Expr.isComputed_renumber (f : Nat → Nat) (e : Expr) :
    (e.renumber f).IsComputed ↔ e.IsComputed := by
  cases e <;> simp [renumber, IsComputed]

/-- Whether a rule computes names does not depend on the numbers of its slots. -/
theorem Expr.not_isComputed_of_unnumbered {a b : Expr} (same : a.unnumbered = b.unnumbered)
    (closed : b.Everywhere fun node => ¬ node.IsComputed) :
    a.Everywhere fun node => ¬ node.IsComputed := by
  have wiped (e : Expr) : (e.unnumbered.Everywhere fun node => ¬ node.IsComputed)
      ↔ e.Everywhere fun node => ¬ node.IsComputed := by
    simp only [unnumbered, everywhere_renumber, isComputed_renumber]
  rw [← wiped a, same, wiped b]
  exact closed

/-- A rule whose table knows of no computed name computes none. -/
theorem not_isComputed_of_compiled {table : NameTable} {e : Expr}
    (compiled : e.Everywhere table.Compiled) (closed : table.hasComputed = false) :
    e.Everywhere fun node => ¬ node.IsComputed := by
  refine compiled.imp fun node compiled isComputed => ?_
  cases node with
  | var name slot =>
      have view : name.naming = .computed := isComputed
      have places : table.Places name slot := compiled
      have known := ((NameTable.places_computed view).mp places).2
      rw [closed] at known
      cases known
  | _ => exact isComputed

/-- A table need not know of computed names if there are none. -/
theorem compiled_of_not_isComputed {table : NameTable} {e : Expr}
    (compiled : e.Everywhere table.Compiled) (closed : e.Everywhere fun node => ¬ node.IsComputed) :
    e.Everywhere ({ table with hasComputed := false } : NameTable).Compiled := by
  intro node member
  have here := compiled node member
  cases node with
  | var name slot =>
      have places : table.Places name slot := here
      cases view : name.naming with
      | computed => exact absurd view (closed _ member)
      | spelled text =>
          have stands := (NameTable.places_spelled view).mp places
          exact (NameTable.places_spelled view).mpr stands
      | record =>
          have unplaced := (NameTable.places_record view).mp places
          exact (NameTable.places_record view).mpr unplaced
  | _ => exact here

/-- The host that knows every variable by its name, and no whole record. -/
def Host.named (value : String → Value) : Host := fun name _ =>
  if name = "" then none else some (value name)

omit [PatternEngine] in
/-- In the order of a table, a row of values gives a listed name its value. -/
theorem positional_eq_named {table : NameTable} (sound : table.Sound)
    (closed : table.hasComputed = false) (value : String → Value) {name : String}
    {slot : Option Nat} (lists : table.Lists name slot) :
    Host.positional table.names (table.names.map value) name slot = Host.named value name slot := by
  rcases lists with ⟨k, rfl, stands⟩ | ⟨rfl, record⟩
  · have nonempty : name ≠ "" := by
      rintro rfl
      exact sound.nonempty (List.mem_of_getElem? stands)
    simp [Host.positional, Host.named, nonempty, stands]
  · have empty := record closed
    subst empty
    have absent : table.names.idxOf? "" = none := List.idxOf?_eq_none_iff.mpr sound.nonempty
    simp [Host.positional, Host.named, absent]

/-- For a rule without computed names a row of values is a host that knows them by name. -/
theorem eval_positional {table : NameTable} (sound : table.Sound) {e : Expr}
    (compiled : e.Everywhere table.Compiled) (closed : e.Everywhere fun node => ¬ node.IsComputed)
    (value : String → Value) :
    e.eval (.host (.positional table.names (table.names.map value)))
      = e.eval (.host (.named value)) := by
  -- no node computes a name, so the rule also fits the table without its mark, whatever the mark is
  let closedTable : NameTable := { table with hasComputed := false }
  have closedSound : closedTable.Sound := ⟨sound.nodup, sound.nonempty, sound.slots⟩
  exact (eval_congr (compiled_of_not_isComputed compiled closed) fun name slot lists =>
    positional_eq_named closedSound rfl value lists).1

namespace Rule

/-- **The normal form means the same.**  It is read as a rule that no host without regard for slots,
and no record, tells from the first; and if the first has no computed names, neither do values laid
out for each of the two in the order of its own names. -/
theorem normal_means_the_same {json : Json} {rule : Rule} (read : ofJson json = .ok rule) :
    ∃ normal, ofJson rule.toJson = .ok normal ∧
      (∀ host : Host, (∀ name slot slot', host name slot = host name slot') →
        (normal.run host).Indistinct (rule.run host)) ∧
      (∀ data : Value, (normal.run (.record data)).Indistinct (rule.run (.record data))) ∧
      (rule.table.hasComputed = false → ∀ value : String → Value,
        (normal.run (.positional normal.table.names (normal.table.names.map value))).Indistinct
          (rule.run (.positional rule.table.names (rule.table.names.map value)))) := by
  obtain ⟨normal, readAgain, same⟩ := exists_normal read
  have compiled := compiled_of_ofJson read
  have compiledAgain := compiled_of_ofJson readAgain
  have blindly (host : Host) (blind : ∀ name slot slot', host name slot = host name slot') :
      (normal.run host).Indistinct (rule.run host) :=
    indistinct_of_unnumbered compiled compiledAgain same blind
  refine ⟨normal, readAgain, blindly, fun data => blindly _ fun _ _ _ => rfl, ?_⟩
  intro closed value
  -- what is known of computed names passes to the normal form by way of the trees
  have closedRoot := not_isComputed_of_compiled compiled closed
  have closedAgain := Expr.not_isComputed_of_unnumbered same closedRoot
  have byName := blindly (.named value) fun _ _ _ => rfl
  have row : rule.run (.positional rule.table.names (rule.table.names.map value))
      = rule.run (.named value) := eval_positional (sound_of_ofJson read) compiled closedRoot value
  have rowAgain : normal.run (.positional normal.table.names (normal.table.names.map value))
      = normal.run (.named value) :=
    eval_positional (sound_of_ofJson readAgain) compiledAgain closedAgain value
  rw [row, rowAgain]
  exact byName

end Rule

end

namespace Rule

/-- The dropped name stands in the row of the first rule only, and both rows end with one fault. -/
theorem normal_means_the_same_forgetful :
    ofJson forgetfulForm = .ok forgetful ∧
      (forgetful.run (.positional ["seen", "dropped", "unit"]
        [Value.string "seen", Value.string "dropped", Value.string "unit"])).outcome
          = .error (.arity (.equality .loose) 1) ∧
      ∃ normal, ofJson forgetful.toJson = .ok normal ∧
        (normal.run (.record (.object [("seen", Value.null)]))).Indistinct
          (forgetful.run (.record (.object [("seen", Value.null)]))) ∧
        (normal.run (.named Value.string)).Indistinct (forgetful.run (.named Value.string)) ∧
        (normal.run (.positional normal.table.names
          (normal.table.names.map Value.string))).Indistinct
          (forgetful.run (.positional ["seen", "dropped", "unit"]
            [Value.string "seen", Value.string "dropped", Value.string "unit"])) := by
  have read : ofJson forgetfulForm = .ok forgetful := by decide
  obtain ⟨normal, again, blind, onRecords, onRows⟩ := normal_means_the_same read
  exact ⟨read, by decide, normal, again, onRecords _, blind (.named Value.string) fun _ _ _ => rfl,
    onRows rfl Value.string⟩

end Rule

end JsonRules
