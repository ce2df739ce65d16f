/-
# JsonRules.Proofs.Session -- many rules read with one table

A session reads one form after another with the same table of names, whether or not a form is
a rule.  What one form does to the table is settled by `Compilation.steady_ofJson`; carried
along the session (`Session.Sound`, one step at a time) it gives the main statement: names and
slots stay inverse to each other, no slot ever changes, and a rule that was read long ago still
fits the table (`Session.keeps_slots`).
-/
import JsonRules.Proofs.Compiled
import Mathlib.Data.List.Induction

namespace JsonRules

set_option autoImplicit false

open Compilation

variable [PatternEngine]

/-- The table of a session, and the forms that were rules with what they were read as. -/
structure Session where
  table : NameTable := {}
  rules : List (Json × Expr) := []

namespace Session

/-- Reads one more form.  One that is no rule leaves only the names that were found in it. -/
def step (session : Session) (json : Json) : Session :=
  match ofJson json session.table with
  | .ok e table => { table, rules := session.rules ++ [(json, e)] }
  | .error _ table => { session with table }

/-- Reads forms in order. -/
def run (forms : List Json) : Session := forms.foldl step {}

/-- The table is sound, and reading any rule again gives the same and leaves the table. -/
structure Sound (session : Session) : Prop where
  table : session.table.Sound
  rules : ∀ rule ∈ session.rules, ofJson rule.1 session.table = .ok rule.2 session.table

theorem table_step (session : Session) (json : Json) :
    (session.step json).table = tableAfter (ofJson json) session.table := by
  unfold step tableAfter
  cases ofJson json session.table <;> rfl

theorem grows_step {session : Session} (sound : session.Sound) (json : Json) :
    session.table.Grows (session.step json).table := by
  rw [table_step]
  exact (steady_ofJson json).grows sound.table

theorem sound_step {session : Session} (sound : session.Sound) (json : Json) :
    (session.step json).Sound := by
  have tableSound : (session.step json).table.Sound := by
    rw [table_step]
    exact (steady_ofJson json).sound sound.table
  -- the earlier rules need only that the table has grown, not how the new form was read
  have earlier : ∀ rule ∈ session.rules,
      ofJson rule.1 (session.step json).table = .ok rule.2 (session.step json).table :=
    fun rule member => (steady_ofJson rule.1).again sound.table (sound.rules rule member) tableSound
      (grows_step sound json)
  refine ⟨tableSound, ?_⟩
  cases read : ofJson json session.table with
  | error error table =>
      have same : (session.step json).rules = session.rules := by simp [step, read]
      rw [same]
      exact earlier
  | ok e table =>
      have added : (session.step json).rules = session.rules ++ [(json, e)] := by simp [step, read]
      have left : (session.step json).table = table := by simp [step, read]
      intro rule member
      rw [added, List.mem_append, List.mem_singleton] at member
      rcases member with before | rfl
      · exact earlier rule before
      · rw [left]
        exact ((steady_ofJson json).settles sound.table read).2.2

theorem sound_run (forms : List Json) : (run forms).Sound := by
  induction forms using List.reverseRecOn with
  | nil => exact ⟨NameTable.sound_empty, by simp [run]⟩
  | append_singleton forms json ih =>
      rw [run, List.foldl_append]
      exact sound_step ih json

/-- **A session never breaks a slot.**  After any forms, of which some may be no rules: the table is
sound; one more form leaves every name in its place, and a computed name known; and every rule that
was read so far has its variables in the slots of the names that they spell, no slot for any other
variable, and would be read as the same rule again without a change of the table. -/
theorem keeps_slots (forms : List Json) :
    (run forms).table.Sound ∧
    (∀ json, (run forms).table.names <+: ((run forms).step json).table.names ∧
      ((run forms).table.hasComputed = true → ((run forms).step json).table.hasComputed = true)) ∧
    ∀ json e, (json, e) ∈ (run forms).rules →
      (∀ name slot, .var name slot ∈ e.nodes →
        (∀ spelled, spelled ≠ "" → name = .literal (.string spelled) →
          ∃ k, slot = some k ∧ (run forms).table.names[k]? = some spelled) ∧
        ((∀ spelled, spelled ≠ "" → name ≠ .literal (.string spelled)) → slot = none)) ∧
      ofJson json (run forms).table = .ok e (run forms).table := by
  have sound := sound_run forms
  refine ⟨sound.table, fun json => ?_, fun json e member => ⟨fun name slot node => ?_, ?_⟩⟩
  · have grows := grows_step sound json
    exact ⟨grows.names, grows.computed⟩
  · have places : (run forms).table.Places name slot :=
      compiled_of_settled sound.table json (sound.rules _ member) _ node
    refine ⟨fun spelled nonempty same => ?_, fun unspelled => ?_⟩
    · have view := Expr.naming_eq_spelled_iff.mpr ⟨nonempty, same⟩
      exact (NameTable.places_spelled view).mp places
    · cases view : name.naming with
      | spelled spelled =>
          obtain ⟨nonempty, same⟩ := Expr.naming_eq_spelled_iff.mp view
          exact absurd same (unspelled spelled nonempty)
      | record => exact (NameTable.places_record view).mp places
      | computed => exact ((NameTable.places_computed view).mp places).1
  · exact sound.rules _ member

end Session

end JsonRules
