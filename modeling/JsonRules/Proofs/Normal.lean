/-
# JsonRules.Proofs.Normal -- the normal form of a rule is a rule again

Writing a rule as JSON drops the operands that it does not use, spells out the operand of a
variable without one, and lists every operand.  Reading the form again has to put the same
tree together, for every node that reading can make (`NameTable.Compiled`).  Only the slots
may come out with other numbers, since a name that was dropped does not take one any more
(`rereads_of_compiled`).

So the normal form is written as it was read, and reading it once more gives the very same
rule (`Rule.toJson_reads_back`).
-/
import JsonRules.Libraries
import JsonRules.Proofs.Compiled

namespace JsonRules

set_option autoImplicit false

section

variable [PatternEngine]

namespace Compilation

/-! ## Parts of a node that are read again -/

omit [PatternEngine] in
theorem operator_name (op : Operator) : operator op.name = return op := by
  simp [operator, Operator.ofName?_name]

/-- The normal form of a rule is read, from any table, as the rule with some numbers in its
slots. -/
def Rereads (e : Expr) : Prop := ∀ table : NameTable, ∃ again later,
  ofJson e.toJson table = .ok again later ∧ again.unnumbered = e.unnumbered

theorem rereads_each {items : List Expr} (each : ∀ e ∈ items, Rereads e) (table : NameTable) :
    ∃ again later, (items.map Expr.toJson).mapM ofJson table = .ok again later ∧
      again.map Expr.unnumbered = items.map Expr.unnumbered := by
  induction items generalizing table with
  | nil => exact ⟨[], table, rfl, rfl⟩
  | cons e rest ih =>
      obtain ⟨first, between, readFirst, sameFirst⟩ := each e List.mem_cons_self table
      obtain ⟨others, later, readOthers, sameOthers⟩ :=
        ih (fun other member => each other (List.mem_cons_of_mem _ member)) between
      refine ⟨first :: others, later, ?_, by simp [sameFirst, sameOthers]⟩
      rw [List.map_cons, List.mapM_cons]
      exact bind_eq_ok_iff.mpr ⟨first, between, readFirst,
        bind_eq_ok_iff.mpr ⟨others, later, readOthers, rfl⟩⟩

/-- The operands are read again before the operator is put together. -/
theorem reread_call (op : Operator) (items : List Expr) (each : ∀ e ∈ items, Rereads e)
    (table : NameTable) : ∃ again between, again.map Expr.unnumbered = items.map Expr.unnumbered ∧
      ∀ e later, build op again between = .ok e later →
        ofJson (.object [(op.name, .array (items.map Expr.toJson))]) table = .ok e later := by
  obtain ⟨again, between, read, same⟩ := rereads_each each table
  refine ⟨again, between, same, fun e later built => ?_⟩
  rw [ofJson_apply, operator_name]
  exact bind_eq_ok_iff.mpr ⟨op, table, rfl, bind_eq_ok_iff.mpr ⟨again, between, read, built⟩⟩

theorem register_ok (name : Expr) (table : NameTable) :
    ∃ slot later, register name table = .ok slot later ∧ slot.isSome = name.naming.hasSlot := by
  rw [register_eq]
  cases name.naming with
  | record => exact ⟨none, table, rfl, rfl⟩
  | computed => exact ⟨none, { table with hasComputed := true }, rfl, rfl⟩
  | spelled text =>
      simp only [← bind_pure_comp]
      cases found : Entries.get? text table.slots with
      | some slot =>
          exact ⟨some slot, table, bind_eq_ok_iff.mpr ⟨slot, table, slotOf_of_some found, rfl⟩, rfl⟩
      | none =>
          exact ⟨some table.names.length, table.add text,
            bind_eq_ok_iff.mpr ⟨_, _, slotOf_of_none found, rfl⟩, rfl⟩

theorem isSome_of_places {table : NameTable} {name : Expr} {slot : Option Nat}
    (places : table.Places name slot) : slot.isSome = name.naming.hasSlot := by
  cases view : name.naming with
  | spelled text =>
      obtain ⟨k, rfl, -⟩ := (NameTable.places_spelled view).mp places
      rfl
  | record =>
      obtain rfl := (NameTable.places_record view).mp places
      rfl
  | computed =>
      obtain ⟨rfl, -⟩ := (NameTable.places_computed view).mp places
      rfl

theorem compileSpelled_ok {pattern : Expr} {compiled : Option Pattern}
    (spells : compiled.map Pattern.text = pattern.text?) (table : NameTable) :
    compileSpelled pattern table = .ok compiled table := by
  unfold compileSpelled
  rw [← spells]
  cases compiled with
  | none => rfl
  | some regex =>
      simp only [Option.map_some, compilePattern, Pattern.compile_text]
      rfl

theorem naming_eq_of_unnumbered {a b : Expr} (same : a.unnumbered = b.unnumbered) :
    a.naming = b.naming := by
  rw [← Expr.naming_renumber (fun _ => 0) a, ← Expr.naming_renumber (fun _ => 0) b]
  exact congrArg Expr.naming same

theorem text?_eq_of_unnumbered {a b : Expr} (same : a.unnumbered = b.unnumbered) :
    a.text? = b.text? := by
  rw [← Expr.text?_renumber (fun _ => 0) a, ← Expr.text?_renumber (fun _ => 0) b]
  exact congrArg Expr.text? same

omit [PatternEngine] in
theorem map_zero_eq_of_isSome {a b : Option Nat} (same : a.isSome = b.isSome) :
    a.map (fun _ => 0) = b.map (fun _ => 0) := by
  cases a <;> cases b <;> simp_all

/-! ## One kind of node after the other -/

theorem rereads_literal (scalar : Json.Scalar) :
    Rereads (.literal (.scalar (Scalar.ofJson scalar))) := by
  intro table
  refine ⟨_, table, rfl, ?_⟩
  show Expr.literal (.scalar (Scalar.ofJson (Scalar.ofJson scalar).toJson)) = _
  rw [Scalar.toJson_ofJson]
  rfl

theorem rereads_array {items : List Expr} (each : ∀ e ∈ items, Rereads e) :
    Rereads (.array items) := by
  intro table
  obtain ⟨again, later, read, same⟩ := rereads_each each table
  refine ⟨.array again, later, ?_, ?_⟩
  · rw [Expr.toJson, Expr.toJsonEach_eq, ofJson_array]
    exact bind_eq_ok_iff.mpr ⟨again, later, read, rfl⟩
  · rw [Expr.unnumbered_array, Expr.unnumbered_array, same]

theorem rereads_var {table : NameTable} {name : Expr} {slot : Option Nat}
    (places : table.Places name slot) (below : Rereads name) : Rereads (.var name slot) := by
  intro start
  obtain ⟨again, between, same, read⟩ := reread_call .var [name] (by simpa using below) start
  obtain ⟨name', rfl, sameName⟩ := List.map_eq_singleton_iff.mp same
  obtain ⟨slot', later, registered, hasSlot⟩ := register_ok name' between
  have sameSlot : slot'.isSome = slot.isSome := by
    rw [hasSlot, isSome_of_places places, naming_eq_of_unnumbered sameName]
  refine ⟨.var name' slot', later, read _ _ ?_, ?_⟩
  · rw [build_var]
    exact bind_eq_ok_iff.mpr ⟨slot', later, registered, rfl⟩
  · rw [Expr.unnumbered_var, Expr.unnumbered_var, sameName, map_zero_eq_of_isSome sameSlot]

theorem rereads_regex {pattern subject : Expr} {compiled : Option Pattern}
    (spells : compiled.map Pattern.text = pattern.text?) (below : Rereads pattern)
    (belowSubject : Rereads subject) : Rereads (.regex pattern subject compiled) := by
  intro start
  obtain ⟨again, between, same, read⟩ := reread_call .regex [pattern, subject]
    (by simpa using ⟨below, belowSubject⟩) start
  obtain ⟨pattern', rest, rfl, samePattern, sameRest⟩ := List.map_eq_cons_iff.mp same
  obtain ⟨subject', rfl, sameSubject⟩ := List.map_eq_singleton_iff.mp sameRest
  rw [← text?_eq_of_unnumbered samePattern] at spells
  refine ⟨.regex pattern' subject' compiled, between, read _ _ ?_, ?_⟩
  · rw [build_regex]
    exact bind_eq_ok_iff.mpr ⟨compiled, between, compileSpelled_ok spells between, rfl⟩
  · rw [Expr.unnumbered_regex, Expr.unnumbered_regex, samePattern, sameSubject]

theorem rereads_call {op : Operator} {operands : List Expr}
    (shape : operands.length < op.leastOperands ∨
      op ≠ .var ∧ op ≠ .regex ∧ op.leastOperands ≤ operands.length ∧ op.keep operands = operands)
    (each : ∀ e ∈ operands, Rereads e) : Rereads (.call op operands) := by
  intro start
  obtain ⟨again, between, same, read⟩ := reread_call op operands each start
  have length : operands.length = again.length := by
    simpa using congrArg List.length same.symm
  refine ⟨.call op again, between, ?_, ?_⟩
  · rw [Expr.toJson, Expr.toJsonEach_eq]
    refine read _ _ ?_
    rcases shape with short | ⟨notVar, notRegex, enough, kept⟩
    · rw [build_short (length ▸ short)]
      rfl
    · rw [build_call (length ▸ enough) notVar notRegex, Operator.keep_eq_of_length length kept]
      rfl
  · rw [Expr.unnumbered_call, Expr.unnumbered_call, same]

/-! ## Rules -/

/-- A rule whose nodes are as reading makes them can be read again. -/
theorem rereads_of_compiled {table : NameTable} (e : Expr)
    (compiled : e.Everywhere table.Compiled) : Rereads e := by
  induction e using Expr.induct with
  | literal value =>
      obtain ⟨scalar, rfl⟩ := (Expr.everywhere_literal value).mp compiled
      exact rereads_literal scalar
  | array items ih =>
      obtain ⟨-, below⟩ := (Expr.everywhere_array items).mp compiled
      exact rereads_array fun e member => ih e member (below e member)
  | var name slot ih =>
      obtain ⟨places, below⟩ := (Expr.everywhere_var name slot).mp compiled
      exact rereads_var places (ih below)
  | regex pattern subject regex ihPattern ihSubject =>
      obtain ⟨spells, below⟩ := (Expr.everywhere_regex pattern subject regex).mp compiled
      exact rereads_regex spells (ihPattern below.1) (ihSubject below.2)
  | call op operands ih =>
      obtain ⟨shape, below⟩ := (Expr.everywhere_call op operands).mp compiled
      exact rereads_call shape fun e member => ih e member (below e member)

end Compilation

namespace Rule

/-- The normal form of a rule is read as the rule, with other numbers in its slots at most. -/
theorem exists_normal {json : Json} {rule : Rule} (read : ofJson json = .ok rule) :
    ∃ normal, ofJson rule.toJson = .ok normal ∧ normal.root.unnumbered = rule.root.unnumbered := by
  obtain ⟨again, table, readAgain, same⟩ :=
    Compilation.rereads_of_compiled rule.root (compiled_of_ofJson read) {}
  exact ⟨⟨again, table⟩, ofJson_eq_ok_iff.mpr readAgain, same⟩

/-- **Reading undoes writing.**  The JSON form of a rule is read as a rule that is equal node for
node except for the numbers of its slots and is written in the same way, and reading the form of
that rule gives it back with its slots, its names, and what is known of computed names. -/
theorem toJson_reads_back {json : Json} {rule : Rule} (read : ofJson json = .ok rule) :
    ∃ normal, ofJson rule.toJson = .ok normal ∧
      normal.root.unnumbered = rule.root.unnumbered ∧
      normal.toJson = rule.toJson ∧
      ofJson normal.toJson = .ok normal := by
  obtain ⟨normal, readAgain, same⟩ := exists_normal read
  have sameForm : normal.toJson = rule.toJson := Expr.toJson_eq_of_unnumbered same
  exact ⟨normal, readAgain, same, sameForm, by rw [sameForm, readAgain]⟩

end Rule

end

namespace Rule

/-- A form in which a name stands only where it is dropped. -/
def forgetfulForm : Json :=
  .object [("cat", .array
    [.object [("!", .array
      [.object [("var", .scalar (.string "seen"))],
       .object [("var", .scalar (.string "dropped"))]])],
     .object [("var", .scalar (.string "unit"))],
     .object [("var", .array [])],
     .object [("==", .scalar .null)]])]

/-- The rule of that form, with the dropped name in slot 1. -/
def forgetful : Rule where
  root := .call (.fold .concat)
    [.call .not [.var (.literal (.string "seen")) (some 0)],
     .var (.literal (.string "unit")) (some 2),
     .var (.literal (.string "")) none,
     .call (.equality .loose) [.literal .null]]
  table := {
    names := ["seen", "dropped", "unit"]
    slots := [("dropped", 1), ("seen", 0), ("unit", 2)] }

/-- A name that was dropped leaves its slot to the next one. -/
theorem toJson_reads_back_forgetful :
    ofJson forgetfulForm = .ok forgetful ∧
      ofJson forgetful.toJson ≠ .ok forgetful ∧
      ∃ normal, ofJson forgetful.toJson = .ok normal ∧
        normal.root.unnumbered = forgetful.root.unnumbered ∧
        normal.toJson = forgetful.toJson ∧
        ofJson normal.toJson = .ok normal := by
  have read : ofJson forgetfulForm = .ok forgetful := by decide
  exact ⟨read, by decide, toJson_reads_back read⟩

end Rule

end JsonRules
