/-
# JsonRules.Proofs.Variables -- which variables a rule lists

The table of a rule is filled by the way, while the rule is read.  What it holds in the end can be
told from the form alone: walk through the form, each part after those inside of it
(`Doc.postorder`), and take down the name of every variable that spells one (`Form.names`).  The
table lists these names, each once, where it comes up first; and it says that a name is computed if
some variable has a first operand that is neither a text nor null (`Rule.lists_spelled_names`).

A step of the reading enters some names behind those that are there (`NameTable.Entered`), and
steps in a row enter theirs one after the other (`Compilation.Enters`).  The operands that an
operator drops, and those of an operator that has too few, are read before this shows, so they are
entered like all others.
-/
import JsonRules.Libraries
import JsonRules.Proofs.Compiled
import JsonRules.Proofs.Docs
import Mathlib.Data.List.Induction

namespace JsonRules

set_option autoImplicit false

section

/-! ## The walk -/

namespace Doc

variable {σ : Type}

mutual

/-- The documents in a document, at any depth, each after those inside of it, and the document
itself. -/
def postorder : Doc σ → List (Doc σ)
  | .scalar value => [.scalar value]
  | .array items => postorderItems items ++ [.array items]
  | .object entries => postorderEntries entries ++ [.object entries]

def postorderItems : List (Doc σ) → List (Doc σ)
  | [] => []
  | item :: rest => item.postorder ++ postorderItems rest

def postorderEntries : List (String × Doc σ) → List (Doc σ)
  | [] => []
  | (_, item) :: rest => item.postorder ++ postorderEntries rest

end

theorem postorderItems_eq (items : List (Doc σ)) :
    postorderItems items = items.flatMap postorder := by
  induction items with
  | nil => rfl
  | cons item rest ih => rw [postorderItems, ih, List.flatMap_cons]

end Doc

/-! ## The names in a form -/

namespace Form

open Compilation (operandsOf)

/-- The first operand of a form that applies `var`. -/
def nameOperand? : Json → Option Json
  | .object [(key, operand)] =>
      if key = Operator.var.name then (operandsOf operand).head? else none
  | _ => none

/-- How a form names a variable of which it is the first operand. -/
def naming : Json → Naming
  | .scalar .null => .record
  | .scalar (.string name) => if name = "" then .record else .spelled name
  | _ => .computed

/-- The name that a form spells if it is a variable; the empty text spells none. -/
def name? (form : Json) : Option String :=
  match nameOperand? form with
  | some (.scalar (.string name)) => if name = "" then none else some name
  | _ => none

/-- The form is a variable with a first operand that is neither a text nor null. -/
def ComputesName (form : Json) : Prop :=
  ∃ first, nameOperand? form = some first ∧ first ≠ .scalar .null ∧
    ∀ name, first ≠ .scalar (.string name)

/-- The names that variables in a form spell, in the order of the walk. -/
def names (form : Json) : List String := form.postorder.filterMap name?

/-- Some variable in a form computes its name. -/
def HasComputed (form : Json) : Prop := ∃ part ∈ form.postorder, ComputesName part

theorem naming_eq_computed_iff {form : Json} :
    naming form = .computed
      ↔ form ≠ .scalar .null ∧ ∀ name, form ≠ .scalar (.string name) := by
  unfold naming
  split
  · simp
  · rename_i name
    by_cases empty : name = "" <;> simp [empty]
  · rename_i notNull notText
    exact iff_of_true rfl ⟨notNull, notText⟩

/-- The name of a variable comes from its first operand. -/
theorem name?_eq (form : Json) :
    name? form = match (nameOperand? form).map naming with
      | some (.spelled name) => some name
      | _ => none := by
  unfold name?
  cases nameOperand? form with
  | none => rfl
  | some first =>
      unfold naming
      cases first with
      | array items => rfl
      | object entries => rfl
      | scalar value =>
          cases value with
          | null | bool | number => rfl
          | string name => by_cases empty : name = "" <;> simp [empty]

theorem computesName_iff (form : Json) :
    ComputesName form ↔ (nameOperand? form).map naming = some .computed := by
  simp only [ComputesName, Option.map_eq_some_iff, naming_eq_computed_iff]

theorem not_hasComputed_scalar (value : Json.Scalar) : ¬ HasComputed (.scalar value) := by
  rintro ⟨part, member, first, operand, -⟩
  rw [List.mem_singleton.mp member] at operand
  cases operand

section Arrays

variable (items : List Json)

theorem names_array : names (.array items) = items.flatMap names := by
  have own : name? (.array items) = none := rfl
  rw [names, Doc.postorder, Doc.postorderItems_eq, List.filterMap_append, List.filterMap_flatMap]
  simp only [List.filterMap_cons, own, List.filterMap_nil, List.append_nil]
  rfl

theorem hasComputed_array : HasComputed (.array items) ↔ ∃ item ∈ items, HasComputed item := by
  have own : ¬ ComputesName (.array items) := by
    rintro ⟨first, operand, -⟩
    cases operand
  simp only [HasComputed, Doc.postorder, Doc.postorderItems_eq, List.mem_append, List.mem_flatMap,
    List.mem_singleton]
  constructor
  · rintro ⟨part, ⟨item, member, inside⟩ | rfl, computed⟩
    · exact ⟨item, member, part, inside, computed⟩
    · exact absurd computed own
  · rintro ⟨item, member, part, inside, computed⟩
    exact ⟨part, .inl ⟨item, member, inside⟩, computed⟩

end Arrays

section Applications

variable (key : String) (operand : Json)

/-- The names inside of an operand are those of the operands that it lists. -/
theorem names_operandsOf : (operandsOf operand).flatMap names = names operand := by
  cases operand with
  | array items => exact (names_array items).symm
  | scalar | object => exact List.flatMap_singleton _ _

theorem hasComputed_operandsOf :
    (∃ item ∈ operandsOf operand, HasComputed item) ↔ HasComputed operand := by
  cases operand with
  | array items => exact (hasComputed_array items).symm
  | scalar | object => simp [operandsOf]

theorem names_apply : names (.object [(key, operand)])
    = (operandsOf operand).flatMap names ++ (name? (.object [(key, operand)])).toList := by
  rw [names_operandsOf, names, Doc.postorder, Doc.postorderEntries, Doc.postorderEntries,
    List.append_nil, List.filterMap_append]
  cases own : name? (.object [(key, operand)]) <;> simp [own, names]

theorem hasComputed_apply : HasComputed (.object [(key, operand)])
    ↔ (∃ item ∈ operandsOf operand, HasComputed item)
      ∨ ComputesName (.object [(key, operand)]) := by
  rw [hasComputed_operandsOf]
  simp only [HasComputed, Doc.postorder, Doc.postorderEntries, List.append_nil, List.mem_append,
    List.mem_singleton]
  constructor
  · rintro ⟨part, inside | rfl, computed⟩
    · exact .inl ⟨part, inside, computed⟩
    · exact .inr computed
  · rintro (⟨part, inside, computed⟩ | computed)
    · exact ⟨part, .inl inside, computed⟩
    · exact ⟨_, .inr rfl, computed⟩

end Applications

end Form

/-! ## Entering names -/

namespace NameTable

/-- Puts names behind those that are known, unless they are known already. -/
def enter (known new : List String) : List String :=
  new.foldl (fun known name => if name ∈ known then known else known ++ [name]) known

theorem enter_append (known first second : List String) :
    enter known (first ++ second) = enter (enter known first) second :=
  List.foldl_append

/-- Names entered from the start on are the names without repetitions. -/
theorem enter_nil (names : List String) : enter [] names = names.eraseDups := by
  induction names using List.reverseRecOn with
  | nil => rfl
  | append_singleton names name ih =>
      have alone : [name].eraseDups = [name] := rfl
      rw [enter_append, ih, List.eraseDups_append]
      by_cases known : name ∈ names
      · simp [enter, known, List.removeAll]
      · simp [enter, known, List.removeAll, alone]

/-- The later table has some more names, and knows of some more computed ones. -/
structure Entered (table later : NameTable) (names : List String) (computed : Prop) : Prop where
  sound : later.Sound
  names : later.names = enter table.names names
  computed : later.hasComputed = true ↔ table.hasComputed = true ∨ computed

theorem Entered.refl {table : NameTable} (sound : table.Sound) : table.Entered table [] False :=
  ⟨sound, rfl, (or_false _).symm ▸ Iff.rfl⟩

theorem Entered.trans {a b c : NameTable} {first second : List String} {p q : Prop}
    (before : a.Entered b first p) (after : b.Entered c second q) :
    a.Entered c (first ++ second) (p ∨ q) where
  sound := after.sound
  names := by rw [after.names, before.names, enter_append]
  computed := by rw [after.computed, before.computed, or_assoc]

theorem Entered.congr {table later : NameTable} {names names' : List String} {p q : Prop}
    (entered : table.Entered later names p) (same : names = names') (iff : p ↔ q) :
    table.Entered later names' q := by
  rw [← same, ← iff]
  exact entered

end NameTable

namespace Compilation

variable {α β : Type}

/-- From a sound table on, a result comes with these names entered, and satisfies `p`. -/
structure Enters (m : Compilation α) (names : List String) (computed : Prop) (p : α → Prop) :
    Prop where
  of_ok : ∀ {table later a}, table.Sound → m table = .ok a later →
    table.Entered later names computed ∧ p a

namespace Enters

variable {names others : List String} {computed computed' : Prop} {p : α → Prop} {q : β → Prop}

theorem pure {a : α} (holds : p a) : Enters (pure a) [] False p where
  of_ok sound ok := by
    cases ok
    exact ⟨.refl sound, holds⟩

theorem throw (error : CompilationError) : Enters (throw error) names computed p where
  of_ok _ ok := by cases ok

theorem bind {m : Compilation α} {f : α → Compilation β} (first : Enters m names computed p)
    (second : ∀ a, p a → Enters (f a) others computed' q) :
    Enters (m >>= f) (names ++ others) (computed ∨ computed') q where
  of_ok sound ok := by
    obtain ⟨a, between, run, ok⟩ := bind_eq_ok_iff.mp ok
    obtain ⟨before, holds⟩ := first.of_ok sound run
    obtain ⟨after, result⟩ := (second a holds).of_ok before.sound ok
    exact ⟨before.trans after, result⟩

theorem congr {m : Compilation α} (enters : Enters m names computed p) (same : names = others)
    (iff : computed ↔ computed') : Enters m others computed' p where
  of_ok sound ok := by
    obtain ⟨entered, result⟩ := enters.of_ok sound ok
    exact ⟨entered.congr same iff, result⟩

theorem mapM {f : α → Compilation β} {names : α → List String} {computed : α → Prop}
    {p : α → β → Prop} {items : List α}
    (each : ∀ item ∈ items, Enters (f item) (names item) (computed item) (p item)) :
    Enters (items.mapM f) (items.flatMap names) (∃ item ∈ items, computed item)
      (List.Forall₂ p items) := by
  induction items with
  | nil => exact (Enters.pure .nil).congr rfl (by simp)
  | cons item rest ih =>
      obtain ⟨here, later⟩ := List.forall_mem_cons.mp each
      rw [List.mapM_cons]
      have both := here.bind fun b holds =>
        (ih later).bind fun bs all => Enters.pure (List.Forall₂.cons holds all)
      refine both.congr ?_ ?_
      · rw [List.append_nil, List.flatMap_cons]
      · rw [or_false, List.exists_mem_cons_iff]

end Enters

/-! ## Reading enters the names of the walk -/

/-- The names that an operand enters by naming a variable. -/
def enteredBy : Naming → List String
  | .spelled name => [name]
  | .record | .computed => []

theorem enters_slotOf {name : String} (nonempty : name ≠ "") :
    Enters (slotOf name) [name] False fun _ => True := by
  refine ⟨fun {table later slot} sound ok => ?_⟩
  refine ⟨?_, trivial⟩
  cases found : Entries.get? name table.slots with
  | some known =>
      have present : name ∈ table.names := by
        by_contra absent
        rw [sound.get?_eq_none_iff.mpr absent] at found
        cases found
      rw [slotOf_of_some found] at ok
      cases ok
      refine ⟨sound, ?_, by simp⟩
      simp [NameTable.enter, present]
  | none =>
      have absent : name ∉ table.names := sound.get?_eq_none_iff.mp found
      rw [slotOf_of_none found] at ok
      cases ok
      refine ⟨sound.add nonempty found, ?_, by simp [NameTable.add]⟩
      simp [NameTable.enter, absent, NameTable.add]

variable [PatternEngine]

theorem enters_register (name : Expr) :
    Enters (register name) (enteredBy name.naming) (name.naming = .computed) fun _ => True := by
  rw [register_eq]
  cases view : name.naming with
  | spelled text =>
      have nonempty := (Expr.naming_eq_spelled_iff.mp view).1
      have slot := (enters_slotOf nonempty).bind fun k _ =>
        Enters.pure (a := some k) (p := fun _ => True) trivial
      dsimp only
      rw [← bind_pure_comp]
      exact slot.congr rfl (by simp)
  | record => exact (Enters.pure trivial).congr rfl (by simp)
  | computed =>
      refine ⟨fun {table later slot} sound ok => ?_⟩
      cases ok
      have marked : NameTable.Sound { table with hasComputed := true } :=
        ⟨sound.nodup, sound.nonempty, sound.slots⟩
      exact ⟨⟨marked, rfl, by simp⟩, trivial⟩

theorem enters_compileSpelled (pattern : Expr) :
    Enters (compileSpelled pattern) [] False fun _ => True := by
  refine ⟨fun {table later compiled} sound ok => ?_⟩
  refine ⟨?_, trivial⟩
  -- a pattern is compiled without a look at the table
  have same : later = table := by
    unfold compileSpelled compilePattern at ok
    cases spelled : pattern.text? with
    | none =>
        simp only [spelled] at ok
        cases ok
        rfl
    | some text =>
        simp only [spelled] at ok
        cases result : Pattern.compile text <;> simp only [result] at ok <;> cases ok
        rfl
  rw [same]
  exact .refl sound

omit [PatternEngine] in
theorem enters_operator (key : String) :
    Enters (operator key) [] False fun op => op.name = key := by
  unfold operator
  cases found : Operator.ofName? key with
  | none => exact .throw _
  | some op =>
      have name : op.name = key := by simpa using List.find?_some found
      exact .pure name

/-- Putting an operator together enters the name of a variable, and nothing else; what comes out
cannot name a variable by itself. -/
theorem enters_build (op : Operator) {operand : Json} {operands : List Expr}
    (read : List.Forall₂ (fun json e => Expr.naming e = Form.naming json) (operandsOf operand)
      operands) :
    Enters (build op operands) (Form.name? (.object [(op.name, operand)])).toList
      (Form.ComputesName (.object [(op.name, operand)])) fun e => e.naming = .computed := by
  rw [Form.name?_eq, Form.computesName_iff]
  by_cases isVar : op = .var
  · subst isVar
    have first : Form.nameOperand? (.object [(Operator.var.name, operand)])
        = (operandsOf operand).head? := by
      simp [Form.nameOperand?]
    rw [build_var, first]
    generalize operandsOf operand = items at read
    have registered := (enters_register (nameOperand operands)).bind fun slot _ =>
      Enters.pure (a := Expr.var (nameOperand operands) slot)
        (p := fun e => e.naming = .computed) rfl
    refine registered.congr ?_ ?_ <;> cases read with
      | nil => simp [nameOperand, Expr.naming, enteredBy]
      | cons same rest =>
          simp only [nameOperand, List.head?_cons, Option.getD_some, Option.map_some, same]
          cases Form.naming _ <;> simp [enteredBy]
  · have none : Form.nameOperand? (.object [(op.name, operand)]) = none := by
      refine if_neg fun same => isVar ?_
      have distinct := List.inj_on_of_nodup_map Operator.nodup_names
      exact distinct (Operator.mem_all op) (Operator.mem_all .var) same
    have call (kept : List Expr) :
        Enters (return Expr.call op kept) [] False fun e : Expr => e.naming = .computed :=
      .pure rfl
    rw [none]
    rcases build_eq op operands with ⟨same, -⟩ | ⟨var, -⟩ | ⟨-, pattern, subject, -, -, same⟩
      | ⟨-, -, -, same⟩
    · rw [same]
      exact (call operands).congr rfl (by simp)
    · exact absurd var isVar
    · rw [same]
      have compiled := (enters_compileSpelled pattern).bind fun compiled _ =>
        Enters.pure (a := Expr.regex pattern subject compiled)
          (p := fun e => e.naming = .computed) rfl
      exact compiled.congr rfl (by simp)
    · rw [same]
      exact (call (op.keep operands)).congr rfl (by simp)

/-- A scalar that is read names a variable as it did before. -/
theorem naming_ofJson (value : Json.Scalar) :
    Expr.naming (.literal (.scalar (Scalar.ofJson value))) = Form.naming (.scalar value) := by
  cases value with
  | null | bool | string => rfl
  | number number =>
      cases number with
      | double value finite => rfl
      | integer value inRange =>
          rw [Scalar.ofJson, Scalar.ofNumber]
          split <;> rfl

/-- Reading a form enters the names of the walk through it. -/
theorem enters_ofJson (json : Json) :
    Enters (ofJson json) (Form.names json) (Form.HasComputed json)
      fun e => e.naming = Form.naming json := by
  induction json using formInduct with
  | scalar value =>
      have none := Form.not_hasComputed_scalar value
      have read := Enters.pure (a := Expr.literal (.scalar (Scalar.ofJson value)))
        (p := fun e => e.naming = Form.naming (.scalar value)) (naming_ofJson value)
      exact read.congr rfl (iff_of_false id none)
  | array items ih =>
      rw [ofJson_array]
      have read := (Enters.mapM ih).bind fun es _ =>
        Enters.pure (a := Expr.array es) (p := fun e => e.naming = Form.naming (.array items)) rfl
      refine read.congr ?_ ?_
      · rw [List.append_nil, Form.names_array]
      · rw [or_false, Form.hasComputed_array]
  | apply key operand ih =>
      rw [ofJson_apply]
      have read := (enters_operator key).bind fun op named =>
        (Enters.mapM ih).bind fun operands read => named ▸ enters_build op read
      refine read.congr ?_ ?_
      · rw [List.nil_append, Form.names_apply]
      · rw [false_or, Form.hasComputed_apply]
  | keyCount entries wrong =>
      rw [ofJson_keyCount wrong]
      exact .throw _

end Compilation

variable [PatternEngine]

namespace Rule

/-- **What the table of a rule lists.**  The names are those that variables anywhere in the form
spell, also where operands are dropped or too few; each is listed once, where the walk that takes a
variable after everything inside of it comes to it first.  A name is known to be computed exactly if
some variable has a first operand that is neither a text nor null. -/
theorem lists_spelled_names {json : Json} {rule : Rule} (read : ofJson json = .ok rule) :
    rule.table.names = (json.postorder.filterMap Form.name?).eraseDups ∧
    (rule.table.hasComputed = true ↔ ∃ part ∈ json.postorder, Form.ComputesName part) := by
  obtain ⟨entered, -⟩ :=
    (Compilation.enters_ofJson json).of_ok NameTable.sound_empty (ofJson_eq_ok_iff.mp read)
  constructor
  · rw [entered.names, NameTable.enter_nil]
    rfl
  · rw [entered.computed]
    simp [Form.HasComputed]

end Rule

end

namespace Rule

/-- Rows of a page, with a predicate that has too few operands, a column whose name is computed, and
more operands than are kept. -/
def pagedForm : Json :=
  let var (operand : Json) : Json := .object [("var", operand)]
  let text (name : String) : Json := .scalar (.string name)
  .object [("map", .array
    [var (.array [text "rows", var (text "page")]),
      .object [("if", .array
        [var (text "rows"), .object [("==", .array [var (text "")])], var (var (text "column"))])],
      var (.array [text "unused"])])]

/-- The rule of `pagedForm`. -/
def pagedRule : Rule where
  root := .call .map
    [.var (.literal (.string "rows")) (some 1),
      .call .cond
        [.var (.literal (.string "rows")) (some 1),
          .call (.equality .loose) [.var (.literal (.string "")) none],
          .var (.var (.literal (.string "column")) (some 2)) none]]
  table :=
    { names := ["page", "rows", "column", "unused"]
      slots := [("column", 2), ("page", 0), ("rows", 1), ("unused", 3)]
      hasComputed := true }

/-- The page comes first, since it is an operand of the variable `rows`; the last operand of `map`
is listed, though the rule does not keep it. -/
theorem lists_spelled_names_paged :
    ofJson pagedForm = .ok pagedRule ∧
      pagedRule.table.names = (pagedForm.postorder.filterMap Form.name?).eraseDups ∧
      pagedForm.postorder.filterMap Form.name? = ["page", "rows", "rows", "column", "unused"] ∧
      ∃ part ∈ pagedForm.postorder, Form.ComputesName part := by
  have read : ofJson pagedForm = .ok pagedRule := by decide
  obtain ⟨names, computed⟩ := lists_spelled_names read
  exact ⟨read, names, by decide, computed.mp rfl⟩

end Rule

end JsonRules
