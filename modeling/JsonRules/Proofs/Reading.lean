/-
# JsonRules.Proofs.Reading -- how a rule is read

The equations of this module say step by step how a JSON form is read: which operands an
operator gets (`ofJson_apply`), how a name operand becomes a slot (`Expr.naming`,
`register_eq`), and what an operator makes of its operands (`build_eq`).  Every step is steady,
and so is the reading of a whole form (`steady_ofJson`): what a form is read as does not depend
on when it is asked for, once it has been read.
-/
import JsonRules.Proofs.Nodes
import JsonRules.Proofs.Steady
import JsonRules.Proofs.Tree

namespace JsonRules

set_option autoImplicit false

/-! ## Forms, keys and slots -/

namespace Compilation

/-- The operands that stand under the key of an operator: an array lists them, and anything else is
a single one. -/
def operandsOf : Json → List Json
  | .array items => items
  | operand => [operand]

/-- Induction over the JSON form of a rule: an operator comes with the claim for its operands. -/
@[elab_as_elim]
theorem formInduct {motive : Json → Prop} (scalar : ∀ value, motive (.scalar value))
    (array : ∀ items, (∀ item ∈ items, motive item) → motive (.array items))
    (apply : ∀ key operand, (∀ item ∈ operandsOf operand, motive item) →
      motive (.object [(key, operand)]))
    (keyCount : ∀ entries, entries.length ≠ 1 → motive (.object entries)) (json : Json) :
    motive json := by
  -- an operand may itself be the list of operands, so the claim is made for both at once
  refine (@Doc.rec Json.Scalar (fun json => motive json ∧ ∀ item ∈ operandsOf json, motive item)
    (fun items => ∀ item ∈ items, motive item)
    (fun entries => ∀ entry ∈ entries, ∀ item ∈ operandsOf entry.2, motive item)
    (fun entry => ∀ item ∈ operandsOf entry.2, motive item) ?_ ?_ ?_ ?_ ?_ ?_ ?_ ?_ json).1
  · intro value
    simpa [operandsOf] using scalar value
  · intro items ih
    exact ⟨array items ih, ih⟩
  · intro entries ih
    have whole : motive (.object entries) := by
      match entries with
      | [(key, operand)] => exact apply key operand (ih _ List.mem_cons_self)
      | [] => exact keyCount [] (by simp)
      | first :: second :: rest => exact keyCount _ (by simp)
    exact ⟨whole, by simpa [operandsOf] using whole⟩
  · simp
  · intro first rest ihFirst ihRest
    exact List.forall_mem_cons.mpr ⟨ihFirst.1, ihRest⟩
  · simp
  · intro first rest ihFirst ihRest
    exact List.forall_mem_cons.mpr ⟨ihFirst, ihRest⟩
  · intro key operand ih
    exact ih.2

theorem slotOf_eq (name : String) (table : NameTable) :
    slotOf name table
      = match Entries.get? name table.slots with
        | some slot => .ok slot table
        | none => .ok table.names.length (table.add name) := by
  change (match Entries.get? name table.slots with
    | some slot => (return slot : Compilation Nat)
    | none => do
        set (table.add name)
        return table.names.length) table = _
  cases Entries.get? name table.slots <;> rfl

theorem slotOf_of_some {table : NameTable} {name : String} {slot : Nat}
    (found : Entries.get? name table.slots = some slot) :
    slotOf name table = .ok slot table := by
  rw [slotOf_eq, found]

theorem slotOf_of_none {table : NameTable} {name : String}
    (fresh : Entries.get? name table.slots = none) :
    slotOf name table = .ok table.names.length (table.add name) := by
  rw [slotOf_eq, fresh]

theorem steady_slotOf {name : String} (nonempty : name ≠ "") : Steady (slotOf name) where
  sound {table} sound := by
    cases stands : Entries.get? name table.slots with
    | some slot => rwa [tableAfter_of_ok (slotOf_of_some stands)]
    | none =>
        rw [tableAfter_of_ok (slotOf_of_none stands)]
        exact sound.add nonempty stands
  grows {table} _ := by
    cases stands : Entries.get? name table.slots with
    | some slot =>
        rw [tableAfter_of_ok (slotOf_of_some stands)]
        exact .refl table
    | none =>
        rw [tableAfter_of_ok (slotOf_of_none stands)]
        exact table.grows_add name
  again {table later last slot} sound ok lastSound grows := by
    have stands : later.names[slot]? = some name := by
      cases found : Entries.get? name table.slots with
      | some known =>
          rw [slotOf_of_some found] at ok
          cases ok
          exact (sound.slots name slot).mp found
      | none =>
          rw [slotOf_of_none found] at ok
          cases ok
          simp [NameTable.add]
    exact slotOf_of_some ((lastSound.slots name slot).mpr (grows.getElem? stands))

theorem steady_markComputed :
    Steady (modify fun table => { table with hasComputed := true } : Compilation Unit) where
  sound sound := ⟨sound.nodup, sound.nonempty, sound.slots⟩
  grows {table} _ := table.grows_computed
  again {table later last marked} _ ok _ grows := by
    cases ok
    have known : last.hasComputed = true := grows.computed rfl
    show EStateM.Result.ok () { last with hasComputed := true } = .ok () last
    rw [← known]

theorem steady_operator (key : String) : Steady (operator key) := by
  unfold operator
  cases Operator.ofName? key with
  | some op => exact .pure op
  | none => exact .throw _

end Compilation

/-! ## Operands -/

variable [PatternEngine]

namespace Compilation

theorem ofJsonEach_eq (items : List Json) : ofJsonEach items = items.mapM ofJson := by
  induction items with
  | nil => rfl
  | cons item rest ih => rw [ofJsonEach, ih, List.mapM_cons]

theorem ofJson_array (items : List Json) :
    ofJson (.array items) = (do return .array (← items.mapM ofJson)) := by
  rw [ofJson, ofJsonEach_eq]

/-- An object with one key applies the operator that the key names to its operands. -/
theorem ofJson_apply (key : String) (operand : Json) :
    ofJson (.object [(key, operand)]) = (do
      let op ← operator key
      let operands ← (operandsOf operand).mapM ofJson
      build op operands) := by
  cases operand with
  | array items => rw [ofJson, ofJsonEach_eq, operandsOf]
  | scalar value => simp [ofJson, operandsOf]
  | object entries =>
      rw [ofJson, operandsOf]
      · simp
      · simp
      · simp

theorem ofJson_keyCount {entries : List (String × Json)} (wrong : entries.length ≠ 1) :
    ofJson (.object entries) = throw (.keyCount entries.length) := by
  match entries with
  | [] => simp [ofJson]
  | [entry] => exact absurd rfl wrong
  | first :: second :: rest => simp [ofJson]

end Compilation

/-! ## Names of variables -/

/-- How an operand names a variable: by a text, as the whole record, or by what it evaluates to. -/
inductive Naming where
  | spelled (name : String)
  | record
  | computed

/-- Whether a variable gets a slot can be told from how it is named. -/
def Naming.hasSlot : Naming → Bool
  | .spelled _ => true
  | .record | .computed => false

namespace Expr

def naming : Expr → Naming
  | .literal .null => .record
  | .literal (.string name) => if name = "" then .record else .spelled name
  | _ => .computed

/-- The text that an operand spells. -/
def text? : Expr → Option String
  | .literal (.string text) => some text
  | _ => none

theorem naming_eq_spelled_iff {e : Expr} {name : String} :
    e.naming = .spelled name ↔ name ≠ "" ∧ e = .literal (.string name) := by
  constructor
  · intro spelled
    unfold naming at spelled
    split at spelled
    · cases spelled
    · split at spelled
      · cases spelled
      · rename_i nonempty
        cases spelled
        exact ⟨nonempty, rfl⟩
    · cases spelled
  · rintro ⟨nonempty, rfl⟩
    simp [naming, nonempty]

theorem naming_eq_record_iff {e : Expr} :
    e.naming = .record ↔ e = .literal .null ∨ e = .literal (.string "") := by
  constructor
  · intro record
    unfold naming at record
    split at record
    · exact .inl rfl
    · split at record
      · rename_i empty
        exact .inr (by rw [empty])
      · cases record
    · cases record
  · rintro (rfl | rfl) <;> rfl

@[simp] theorem naming_renumber (f : Nat → Nat) (e : Expr) : (e.renumber f).naming = e.naming := by
  cases e <;> rfl

@[simp] theorem text?_renumber (f : Nat → Nat) (e : Expr) : (e.renumber f).text? = e.text? := by
  cases e <;> rfl

end Expr

namespace Compilation

theorem register_eq (name : Expr) :
    register name = match name.naming with
      | .spelled name => some <$> slotOf name
      | .record => pure none
      | .computed => do
          modify fun table => { table with hasComputed := true }
          return none := by
  unfold register
  split
  · rfl
  · rename_i text
    by_cases empty : text = ""
    · simp [Expr.naming, empty]
    · simp [Expr.naming, empty]
  · rename_i notNull notText
    have computed : name.naming = .computed := by
      unfold Expr.naming
      split
      · exact absurd rfl notNull
      · exact absurd rfl (notText _)
      · rfl
    rw [computed]

/-- The operand that names a variable; without one it is the empty text. -/
def nameOperand (operands : List Expr) : Expr := operands.head?.getD (.literal (.string ""))

/-- The compiled form of a pattern that is spelled out. -/
def compileSpelled (pattern : Expr) : Compilation (Option Pattern) :=
  match pattern.text? with
  | some text => some <$> compilePattern text
  | none => return none

theorem build_short {op : Operator} {operands : List Expr}
    (short : operands.length < op.leastOperands) :
    build op operands = return .call op operands := by
  rw [build, Node.ofOperands_short short]
  rfl

theorem build_var (operands : List Expr) :
    build .var operands = do
      let slot ← register (nameOperand operands)
      return .var (nameOperand operands) slot := by
  rw [build, Node.ofOperands_var, ofNode, nameOperand]

theorem ofNode_regex (pattern subject : Expr) :
    ofNode (.regex pattern subject) = do
      let compiled ← compileSpelled pattern
      return .regex pattern subject compiled := by
  rw [ofNode.eq_def]
  dsimp only
  split
  · simp [compileSpelled, Expr.text?]
  · rename_i notText
    have computed : pattern.text? = none := by
      unfold Expr.text?
      split
      · exact absurd rfl (notText _)
      · rfl
    simp [compileSpelled, computed]

theorem build_regex (pattern subject : Expr) (rest : List Expr) :
    build .regex (pattern :: subject :: rest) = do
      let compiled ← compileSpelled pattern
      return .regex pattern subject compiled := by
  rw [build, Node.ofOperands_regex, ofNode_regex]

/-- Only variables and matches are more than an operator with its operands. -/
theorem ofNode_eq {node : Node Expr} (notVar : node.operator ≠ .var)
    (notRegex : node.operator ≠ .regex) :
    ofNode node = return .call node.operator node.children := by
  cases node with
  | var name => exact absurd rfl notVar
  | regex pattern subject => exact absurd rfl notRegex
  | _ => rfl

theorem build_call {op : Operator} {operands : List Expr}
    (enough : op.leastOperands ≤ operands.length) (notVar : op ≠ .var) (notRegex : op ≠ .regex) :
    build op operands = return .call op (op.keep operands) := by
  rw [build, ofNode_eq (by rwa [Node.operator_ofOperands]) (by rwa [Node.operator_ofOperands]),
    Node.operator_ofOperands, Node.children_ofOperands enough fun isVar => absurd isVar notVar]

/-! ## Reading is steady -/

theorem steady_register (name : Expr) : Steady (register name) := by
  rw [register_eq]
  cases view : name.naming with
  | spelled text => exact .map some (steady_slotOf (Expr.naming_eq_spelled_iff.mp view).1)
  | record => exact .pure none
  | computed => exact .bind steady_markComputed fun _ => .pure none

theorem steady_compileSpelled (pattern : Expr) : Steady (compileSpelled pattern) := by
  unfold compileSpelled
  cases pattern.text? with
  | none => exact .pure none
  | some text =>
      refine .map some ?_
      unfold compilePattern
      cases Pattern.compile text with
      | ok pattern => exact .pure pattern
      | error error => exact .throw _

/-- The ways in which an operator and its operands can be put together. -/
theorem build_eq (op : Operator) (operands : List Expr) :
    build op operands = (return .call op operands) ∧ operands.length < op.leastOperands ∨
    op = .var ∧ build op operands = (do
      let slot ← register (nameOperand operands)
      return .var (nameOperand operands) slot) ∨
    op = .regex ∧ (∃ pattern subject rest, operands = pattern :: subject :: rest ∧
      build op operands = do
        let compiled ← compileSpelled pattern
        return .regex pattern subject compiled) ∨
    op ≠ .var ∧ op ≠ .regex ∧ op.leastOperands ≤ operands.length ∧
      build op operands = return .call op (op.keep operands) := by
  by_cases short : operands.length < op.leastOperands
  · exact .inl ⟨build_short short, short⟩
  have enough := Nat.not_lt.mp short
  by_cases isVar : op = .var
  · subst isVar
    exact .inr (.inl ⟨rfl, build_var operands⟩)
  by_cases isRegex : op = .regex
  · subst isRegex
    match operands, enough with
    | pattern :: subject :: rest, _ =>
        exact .inr (.inr (.inl ⟨rfl, pattern, subject, rest, rfl, build_regex ..⟩))
  exact .inr (.inr (.inr ⟨isVar, isRegex, enough, build_call enough isVar isRegex⟩))

theorem steady_build (op : Operator) (operands : List Expr) : Steady (build op operands) := by
  rcases build_eq op operands with ⟨same, -⟩ | ⟨-, same⟩ | ⟨-, pattern, subject, -, -, same⟩
    | ⟨-, -, -, same⟩
  · exact same ▸ .pure _
  · exact same ▸ .bind (steady_register _) fun _ => .pure _
  · exact same ▸ .bind (steady_compileSpelled pattern) fun _ => .pure _
  · exact same ▸ .pure _

/-- Reading a rule is steady. -/
theorem steady_ofJson (json : Json) : Steady (ofJson json) := by
  induction json using formInduct with
  | scalar value => exact .pure _
  | array items ih =>
      rw [ofJson_array]
      exact .bind (.mapM ih) fun _ => .pure _
  | apply key operand ih =>
      rw [ofJson_apply]
      exact .bind (steady_operator key) fun op => .bind (.mapM ih) fun _ => steady_build op _
  | keyCount entries wrong =>
      rw [ofJson_keyCount wrong]
      exact .throw _

end Compilation

end JsonRules
