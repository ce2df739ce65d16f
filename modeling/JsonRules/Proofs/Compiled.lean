/-
# JsonRules.Proofs.Compiled -- what is true of every node of a rule

A node that was read fits the table that the reading left (`NameTable.Compiled`): a variable
has the slot of the name that it spells, a pattern is compiled if it is spelled out, and an
operator has either too few operands or as many as it keeps.  Since reading is steady, this
can be shown on the final table, which no part of the reading changes any more
(`compiled_of_settled`).
-/
import JsonRules.Proofs.Reading
import JsonRules.Rule

namespace JsonRules

set_option autoImplicit false

variable [PatternEngine]

namespace NameTable

/-! ## Nodes that fit a table -/

/-- A variable that spells its name has the slot of this name; one that does not has none, and the
table knows if the name is computed. -/
def Places (table : NameTable) (name : Expr) (slot : Option Nat) : Prop :=
  match name.naming with
  | .spelled spelled => ∃ k, slot = some k ∧ table.names[k]? = some spelled
  | .record => slot = none
  | .computed => slot = none ∧ table.hasComputed = true

section Places

variable {table : NameTable} {name : Expr} {slot : Option Nat}

theorem places_spelled {spelled : String} (view : name.naming = .spelled spelled) :
    table.Places name slot ↔ ∃ k, slot = some k ∧ table.names[k]? = some spelled := by
  rw [Places, view]

theorem places_record (view : name.naming = .record) : table.Places name slot ↔ slot = none := by
  rw [Places, view]

theorem places_computed (view : name.naming = .computed) :
    table.Places name slot ↔ slot = none ∧ table.hasComputed = true := by
  rw [Places, view]

end Places

/-- What reading a rule makes of a node: scalars come from JSON, slots from the table, and compiled
patterns from their text; an operator either has too few operands or as many as it keeps. -/
def Compiled (table : NameTable) : Expr → Prop
  | .literal value => ∃ scalar, value = .scalar (Scalar.ofJson scalar)
  | .array _ => True
  | .var name slot => table.Places name slot
  | .regex pattern _ compiled => compiled.map Pattern.text = pattern.text?
  | .call op operands =>
      operands.length < op.leastOperands ∨
        op ≠ .var ∧ op ≠ .regex ∧ op.leastOperands ≤ operands.length ∧ op.keep operands = operands

end NameTable

namespace Compilation

omit [PatternEngine] in
/-- What holds of every result that some item gives holds of all results. -/
theorem forall_of_forall₂ {α β : Type} {related : α → β → Prop} {p : β → Prop} {as : List α}
    {bs : List β} (all : List.Forall₂ related as bs)
    (each : ∀ a ∈ as, ∀ b, related a b → p b) : ∀ b ∈ bs, p b := by
  induction all with
  | nil => simp
  | cons first rest ih =>
      refine List.forall_mem_cons.mpr ⟨each _ List.mem_cons_self _ first, ih ?_⟩
      exact fun a member => each a (List.mem_cons_of_mem _ member)

theorem places_of_register {table : NameTable} (sound : table.Sound) {name : Expr}
    {slot : Option Nat} (ok : register name table = .ok slot table) : table.Places name slot := by
  rw [register_eq] at ok
  cases view : name.naming with
  | spelled spelled =>
      simp only [view, ← bind_pure_comp] at ok
      have nonempty := (Expr.naming_eq_spelled_iff.mp view).1
      obtain ⟨k, found, same⟩ := Steady.settled_bind (steady_slotOf nonempty) (fun _ => .pure _)
        sound ok
      cases same
      refine (NameTable.places_spelled view).mpr ⟨k, rfl, (sound.slots spelled k).mp ?_⟩
      cases known : Entries.get? spelled table.slots with
      | some slot =>
          rw [slotOf_of_some known] at found
          cases found
          rfl
      | none =>
          -- a new name would have made the table longer
          rw [slotOf_of_none known] at found
          injection found with _ unchanged
          have longer := congrArg (fun table => table.names.length) unchanged
          simp [NameTable.add] at longer
  | record =>
      simp only [view] at ok
      cases ok
      exact (NameTable.places_record view).mpr rfl
  | computed =>
      simp only [view] at ok
      obtain ⟨marked, known, same⟩ := Steady.settled_bind steady_markComputed (fun _ => .pure _)
        sound ok
      cases same
      refine (NameTable.places_computed view).mpr ⟨rfl, ?_⟩
      have marks : { table with hasComputed := true } = table := by injection known
      rw [← marks]

theorem compiled_of_compileSpelled {table later : NameTable} {pattern : Expr}
    {compiled : Option Pattern} (ok : compileSpelled pattern table = .ok compiled later) :
    compiled.map Pattern.text = pattern.text? := by
  unfold compileSpelled at ok
  cases spells : pattern.text? with
  | none =>
      simp only [spells] at ok
      cases ok
      rfl
  | some text =>
      simp only [spells, compilePattern] at ok
      cases result : Pattern.compile text with
      | error error =>
          simp only [result] at ok
          cases ok
      | ok regex =>
          simp only [result] at ok
          cases ok
          exact congrArg some (Pattern.text_of_compile result)

theorem compiled_of_build {table : NameTable} (sound : table.Sound) {op : Operator}
    {operands : List Expr} {e : Expr}
    (each : ∀ operand ∈ operands, operand.Everywhere table.Compiled)
    (ok : build op operands table = .ok e table) : e.Everywhere table.Compiled := by
  rcases build_eq op operands with ⟨same, short⟩ | ⟨-, same⟩
    | ⟨-, pattern, subject, rest, rfl, same⟩ | ⟨notVar, notRegex, enough, same⟩ <;> rw [same] at ok
  · cases ok
    exact (Expr.everywhere_call op operands).mpr ⟨.inl short, each⟩
  · obtain ⟨slot, registered, same⟩ := Steady.settled_bind (steady_register _) (fun _ => .pure _)
      sound ok
    cases same
    have name : (nameOperand operands).Everywhere table.Compiled := by
      cases operands with
      | nil => exact (Expr.everywhere_literal _).mpr ⟨.string "", rfl⟩
      | cons first rest => exact each first List.mem_cons_self
    exact (Expr.everywhere_var _ _).mpr ⟨places_of_register sound registered, name⟩
  · obtain ⟨compiled, later, compiles, same⟩ := bind_eq_ok_iff.mp ok
    cases same
    have belowPattern : pattern.Everywhere table.Compiled := each pattern (by simp)
    have belowSubject : subject.Everywhere table.Compiled := each subject (by simp)
    exact (Expr.everywhere_regex _ _ _).mpr
      ⟨compiled_of_compileSpelled compiles, belowPattern, belowSubject⟩
  · cases ok
    refine (Expr.everywhere_call _ _).mpr ⟨.inr ⟨notVar, notRegex, ?_, op.keep_keep operands⟩, ?_⟩
    · exact Operator.leastOperands_le_length_keep enough
    · exact fun operand kept => each operand (Operator.mem_of_mem_keep kept)

/-- Every node of a rule is compiled by the table that its reading leaves. -/
theorem compiled_of_settled {table : NameTable} (sound : table.Sound) (json : Json) :
    ∀ {e : Expr}, ofJson json table = .ok e table → e.Everywhere table.Compiled := by
  induction json using formInduct with
  | scalar value =>
      intro e ok
      cases ok
      exact (Expr.everywhere_literal _).mpr ⟨value, rfl⟩
  | array items ih =>
      intro e ok
      rw [ofJson_array] at ok
      obtain ⟨es, each, same⟩ := Steady.settled_bind (.mapM fun item _ => steady_ofJson item)
        (fun _ => .pure _) sound ok
      cases same
      have read := Steady.settled_mapM (fun item _ => steady_ofJson item) sound each
      have below := forall_of_forall₂ read fun item member e => ih item member
      exact (Expr.everywhere_array es).mpr ⟨trivial, below⟩
  | apply key operand ih =>
      intro e ok
      rw [ofJson_apply] at ok
      obtain ⟨op, -, ok⟩ := Steady.settled_bind (steady_operator key)
        (fun op => .bind (.mapM fun item _ => steady_ofJson item) fun _ => steady_build op _)
        sound ok
      obtain ⟨operands, each, ok⟩ := Steady.settled_bind (.mapM fun item _ => steady_ofJson item)
        (fun _ => steady_build op _) sound ok
      have read := Steady.settled_mapM (fun item _ => steady_ofJson item) sound each
      have below := forall_of_forall₂ read fun item member e => ih item member
      exact compiled_of_build sound below ok
  | keyCount entries wrong =>
      intro e ok
      rw [ofJson_keyCount wrong] at ok
      cases ok

theorem compiled_of_ofJson {table later : NameTable} (sound : table.Sound) {json : Json} {e : Expr}
    (ok : ofJson json table = .ok e later) : e.Everywhere later.Compiled := by
  obtain ⟨laterSound, -, settled⟩ := (steady_ofJson json).settles sound ok
  exact compiled_of_settled laterSound json settled

end Compilation

namespace Rule

theorem ofJson_eq_ok_iff {json : Json} {rule : Rule} :
    ofJson json = .ok rule ↔ Compilation.ofJson json {} = .ok rule.root rule.table := by
  unfold ofJson
  obtain ⟨root, table⟩ := rule
  cases Compilation.ofJson json {} <;> simp

theorem sound_of_ofJson {json : Json} {rule : Rule} (read : ofJson json = .ok rule) :
    rule.table.Sound :=
  ((Compilation.steady_ofJson json).settles NameTable.sound_empty (ofJson_eq_ok_iff.mp read)).1

/-- Every node of a rule is compiled by its table. -/
theorem compiled_of_ofJson {json : Json} {rule : Rule} (read : ofJson json = .ok rule) :
    rule.root.Everywhere rule.table.Compiled :=
  Compilation.compiled_of_ofJson NameTable.sound_empty (ofJson_eq_ok_iff.mp read)

end Rule

end JsonRules
