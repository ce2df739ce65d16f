/-
# JsonRules.Proofs.Grammar -- which JSON forms are rules

A JSON form is a rule if each object in it, at any depth, applies an operator
(`Form.IsApplication`): it has one key, which names an operator, and a pattern that is spelled out
can be compiled.  What a form does wrong is listed in order (`Form.offences`): for an object first its
keys, then what is wrong inside of it, from left to right, and its pattern last.  Reading a form
ends with the first offence, and with a rule if there is none (`Rule.reads_the_grammar`).

The names that a reading has found so far do not matter for this.  So the offences of a step are
told for all tables at once (`Compilation.Reports`), and those of steps in a row are put together.
-/
import JsonRules.Libraries
import JsonRules.Proofs.Docs
import JsonRules.Proofs.Reading
import JsonRules.Rule

namespace JsonRules

set_option autoImplicit false

section

/-! ## The grammar -/

namespace Form

open Compilation (operandsOf)

/-- The text that a form spells. -/
def text? : Json → Option String
  | .scalar (.string text) => some text
  | _ => none

variable [PatternEngine]

/-- The entries of an object that applies an operator: there is one key, which names an operator, and
if a match is to be made between two operands, of which the first is a text, then this text is a
pattern. -/
def IsApplication (entries : List (String × Json)) : Prop :=
  ∃ key operand, entries = [(key, operand)] ∧ key ∈ Operator.all.map Operator.name ∧
    (key = Operator.regex.name → ∀ text subject others,
      operandsOf operand = .scalar (.string text) :: subject :: others →
        ∃ pattern, Pattern.compile text = .ok pattern)

/-- What is wrong with the keys of an object. -/
def keyOffences : List (String × Json) → List CompilationError
  | [(key, _)] =>
      if key ∈ Operator.all.map Operator.name then [] else [.unknownOperator key]
  | entries => [.keyCount entries.length]

/-- What is wrong with a text that is to be a pattern, if there is one. -/
def textOffences : Option String → List CompilationError
  | some text =>
      match Pattern.compile text with
      | .ok _ => []
      | .error error => [.invalidPattern error]
  | none => []

/-- What is wrong with the pattern among the operands of a match, if they are enough for one. -/
def matchOffences : List Json → List CompilationError
  | pattern :: _ :: _ => textOffences (text? pattern)
  | _ => []

/-- What is wrong with the pattern of an object, if it is to make a match. -/
def patternOffences : List (String × Json) → List CompilationError
  | [(key, operand)] =>
      if key = Operator.regex.name then matchOffences (operandsOf operand) else []
  | _ => []

mutual

/-- All that is wrong with a form, in order. -/
def offences : Json → List CompilationError
  | .scalar _ => []
  | .array items => offencesItems items
  | .object entries =>
      keyOffences entries ++ offencesEntries entries ++ patternOffences entries

def offencesItems : List Json → List CompilationError
  | [] => []
  | item :: rest => offences item ++ offencesItems rest

def offencesEntries : List (String × Json) → List CompilationError
  | [] => []
  | (_, item) :: rest => offences item ++ offencesEntries rest

end

theorem offencesItems_eq (items : List Json) : offencesItems items = items.flatMap offences := by
  induction items with
  | nil => rfl
  | cons item rest ih => rw [offencesItems, ih, List.flatMap_cons]

theorem offencesEntries_eq (entries : List (String × Json)) :
    offencesEntries entries = entries.flatMap fun entry => offences entry.2 := by
  induction entries with
  | nil => rfl
  | cons entry rest ih => rw [offencesEntries, ih, List.flatMap_cons]

/-- The offences inside of an operand are those of the operands that it lists. -/
theorem offences_operandsOf (operand : Json) :
    (operandsOf operand).flatMap offences = offences operand := by
  cases operand with
  | array items => rw [operandsOf, offences, offencesItems_eq]
  | scalar | object => exact List.flatMap_singleton _ _

/-! ## Forms without offences -/

omit [PatternEngine] in
theorem text?_eq_some_iff {json : Json} {text : String} :
    text? json = some text ↔ json = .scalar (.string text) := by
  constructor
  · intro spelled
    unfold text? at spelled
    split at spelled
    · cases spelled
      rfl
    · cases spelled
  · rintro rfl
    rfl

theorem textOffences_of_ok {text : String} {pattern : Pattern}
    (ok : Pattern.compile text = .ok pattern) : textOffences (some text) = [] := by
  simp only [textOffences, ok]

theorem textOffences_of_error {text : String} {error : PatternError}
    (failed : Pattern.compile text = .error error) :
    textOffences (some text) = [.invalidPattern error] := by
  simp only [textOffences, failed]

theorem matchOffences_eq_nil_iff {operands : List Json} :
    matchOffences operands = [] ↔ ∀ text subject others,
      operands = .scalar (.string text) :: subject :: others →
        ∃ pattern, Pattern.compile text = .ok pattern := by
  unfold matchOffences
  split
  · rename_i pattern subject others
    constructor
    · rintro none text _ _ ⟨⟩
      cases compiled : Pattern.compile text with
      | ok pattern => exact ⟨pattern, rfl⟩
      | error error =>
          have offence := textOffences_of_error compiled
          exact absurd (offence.symm.trans none) (List.cons_ne_nil _ _)
    · intro compiles
      cases spelled : text? pattern with
      | none => rfl
      | some text =>
          have same := text?_eq_some_iff.mp spelled
          obtain ⟨compiled, ok⟩ := compiles text subject others (by rw [same])
          exact textOffences_of_ok ok
  · rename_i few
    refine iff_of_true rfl fun text subject others same => ?_
    exact absurd same (few _ _ _)

/-- An object that applies an operator has no offence of its own. -/
theorem isApplication_iff {entries : List (String × Json)} :
    IsApplication entries ↔ keyOffences entries = [] ∧ patternOffences entries = [] := by
  match entries with
  | [(key, operand)] =>
      simp only [IsApplication, keyOffences, patternOffences, ← matchOffences_eq_nil_iff]
      constructor
      · rintro ⟨key, operand, ⟨⟩, named, compiles⟩
        refine ⟨if_pos named, ?_⟩
        split
        · rename_i isRegex
          exact compiles isRegex
        · rfl
      · rintro ⟨named, compiles⟩
        refine ⟨key, operand, rfl, ?_, fun isRegex => ?_⟩
        · by_contra unnamed
          rw [if_neg unnamed] at named
          cases named
        · rw [if_pos isRegex] at compiles
          exact compiles
  | [] | _ :: _ :: _ =>
      constructor
      · rintro ⟨key, operand, same, -⟩
        cases same
      · rintro ⟨count, -⟩
        cases count

/-- A form has no offence exactly if all objects in it apply operators. -/
theorem offences_eq_nil_iff (json : Json) :
    offences json = [] ↔ ∀ entries, .object entries ∈ json.parts → IsApplication entries := by
  induction json using Doc.induct with
  | scalar value => simp [offences, Doc.parts]
  | array items ih =>
      rw [offences, offencesItems_eq, Doc.parts, Doc.partsItems_eq, List.flatMap_eq_nil_iff]
      simp only [List.mem_cons, List.mem_flatMap, reduceCtorEq, false_or]
      constructor
      · rintro none entries ⟨item, member, inside⟩
        exact (ih item member).mp (none item member) entries inside
      · intro all item member
        exact (ih item member).mpr fun entries inside => all entries ⟨item, member, inside⟩
  | object entries ih =>
      rw [offences, offencesEntries_eq, Doc.parts, Doc.partsEntries_eq]
      simp only [List.append_eq_nil_iff, List.flatMap_eq_nil_iff, List.mem_cons, List.mem_flatMap,
        Doc.object.injEq]
      constructor
      · rintro ⟨⟨keys, none⟩, pattern⟩ others (rfl | ⟨entry, member, inside⟩)
        · exact isApplication_iff.mpr ⟨keys, pattern⟩
        · exact (ih entry member).mp (none entry member) others inside
      · intro all
        obtain ⟨keys, pattern⟩ := isApplication_iff.mp (all entries (.inl rfl))
        refine ⟨⟨keys, fun entry member => ?_⟩, pattern⟩
        exact (ih entry member).mpr fun others inside => all others (.inr ⟨entry, member, inside⟩)

end Form

/-! ## What a reading reports -/

namespace Compilation

variable {α β : Type}

/-- From every table, the first offence is reported; without offences there is a result, and it
satisfies `p`. -/
structure Reports (m : Compilation α) (offences : List CompilationError) (p : α → Prop) :
    Prop where
  error : ∀ {table later error}, m table = .error error later → offences.head? = some error
  result : ∀ {table later a}, m table = .ok a later → offences = [] ∧ p a

namespace Reports

variable {p : α → Prop} {q : β → Prop} {offences others : List CompilationError}

theorem pure {a : α} (holds : p a) : Reports (pure a) [] p where
  error ended := by cases ended
  result ended := by
    cases ended
    exact ⟨rfl, holds⟩

theorem throw (error : CompilationError) : Reports (throw error) [error] p where
  error ended := by
    cases ended
    rfl
  result ended := by cases ended

/-- What comes behind an error is not reported. -/
theorem more {m : Compilation α} {error : CompilationError} (reports : Reports m [error] p) :
    Reports m (error :: others) p where
  error ended := reports.error ended
  result ended := absurd (reports.result ended).1 (List.cons_ne_nil _ _)

theorem bind {m : Compilation α} {f : α → Compilation β} (first : Reports m offences p)
    (second : ∀ a, p a → Reports (f a) others q) : Reports (m >>= f) (offences ++ others) q where
  error {table later error} ended := by
    cases run : m table with
    | error error' between =>
        have reported := first.error run
        have same : (m >>= f) table = .error error' between := by
          simp only [Bind.bind, EStateM.bind, run]
        rw [same] at ended
        cases ended
        rw [List.head?_append, reported]
        rfl
    | ok a between =>
        obtain ⟨rfl, holds⟩ := first.result run
        have same : (m >>= f) table = f a between := by
          simp only [Bind.bind, EStateM.bind, run]
        rw [same] at ended
        exact (second a holds).error ended
  result ended := by
    obtain ⟨a, between, run, ended⟩ := bind_eq_ok_iff.mp ended
    obtain ⟨rfl, holds⟩ := first.result run
    exact (second a holds).result ended

theorem mapM {f : α → Compilation β} {offences : α → List CompilationError} {p : α → β → Prop}
    {items : List α} (each : ∀ item ∈ items, Reports (f item) (offences item) (p item)) :
    Reports (items.mapM f) (items.flatMap offences) (List.Forall₂ p items) := by
  induction items with
  | nil => exact .pure .nil
  | cons item rest ih =>
      obtain ⟨here, later⟩ := List.forall_mem_cons.mp each
      rw [List.mapM_cons, List.flatMap_cons]
      refine here.bind fun b holds => ?_
      rw [← List.append_nil (rest.flatMap offences)]
      exact (ih later).bind fun bs all => .pure (.cons holds all)

end Reports

variable [PatternEngine]

/-- Finding out the slot of a variable reports nothing. -/
theorem reports_register (name : Expr) : Reports (register name) [] fun _ => True where
  error {table later error} ended := by
    rw [register_eq] at ended
    cases view : name.naming with
    | spelled text =>
        simp only [view, ← bind_pure_comp, Bind.bind, EStateM.bind, slotOf_eq] at ended
        cases found : Entries.get? text table.slots <;> rw [found] at ended <;> cases ended
    | record =>
        simp only [view] at ended
        cases ended
    | computed =>
        simp only [view] at ended
        cases ended
  result _ := ⟨rfl, trivial⟩

theorem reports_compileSpelled (pattern : Expr) :
    Reports (compileSpelled pattern) (Form.textOffences pattern.text?) fun _ => True := by
  unfold compileSpelled
  cases pattern.text? with
  | none => exact .pure trivial
  | some text =>
      have compiles : Reports (compilePattern text) (Form.textOffences (some text))
          fun _ => True := by
        unfold compilePattern
        cases compiled : Pattern.compile text with
        | error error =>
            rw [Form.textOffences_of_error compiled]
            exact .throw _
        | ok pattern =>
            rw [Form.textOffences_of_ok compiled]
            exact .pure trivial
      dsimp only
      rw [← bind_pure_comp, ← List.append_nil (Form.textOffences _)]
      exact compiles.bind fun _ _ => .pure trivial

omit [PatternEngine] in
theorem reports_operator (key : String) :
    Reports (operator key)
      (if key ∈ Operator.all.map Operator.name then [] else [.unknownOperator key])
      fun op => op.name = key := by
  unfold operator
  cases found : Operator.ofName? key with
  | some op =>
      have name : op.name = key := by simpa using List.find?_some found
      have named : key ∈ Operator.all.map Operator.name :=
        List.mem_map.mpr ⟨op, List.mem_of_find?_eq_some found, name⟩
      rw [if_pos named]
      exact .pure name
  | none =>
      have unnamed : key ∉ Operator.all.map Operator.name := by
        intro named
        obtain ⟨op, member, rfl⟩ := List.mem_map.mp named
        rw [Operator.ofName?_name] at found
        cases found
      rw [if_neg unnamed]
      exact .throw _

/-- Only a match between two operands has a pattern that can be at fault. -/
theorem patternOffences_eq_nil {op : Operator} {operand : Json}
    (few : op = .regex → (operandsOf operand).length < 2) :
    Form.patternOffences [(op.name, operand)] = [] := by
  unfold Form.patternOffences
  dsimp only
  split
  · rename_i named
    have isRegex : op = .regex := List.inj_on_of_nodup_map Operator.nodup_names
      (Operator.mem_all op) (Operator.mem_all .regex) named
    have few := few isRegex
    unfold Form.matchOffences
    split
    · rename_i listed
      rw [listed, List.length_cons, List.length_cons] at few
      omega
    · rfl
  · rfl

/-- Putting an operator together reports its pattern; what comes out spells no text. -/
theorem reports_build (op : Operator) {operand : Json} {operands : List Expr}
    (read : List.Forall₂ (fun json e => Expr.text? e = Form.text? json) (operandsOf operand)
      operands) :
    Reports (build op operands) (Form.patternOffences [(op.name, operand)])
      fun e => e.text? = none := by
  have length := read.length_eq
  rcases build_eq op operands with ⟨same, short⟩ | ⟨isVar, same⟩
    | ⟨isRegex, pattern, subject, rest, rfl, same⟩ | ⟨notVar, notRegex, enough, same⟩ <;> rw [same]
  · rw [patternOffences_eq_nil fun isRegex => by rw [isRegex] at short; exact length ▸ short]
    exact .pure rfl
  · rw [patternOffences_eq_nil fun isRegex => by rw [isVar] at isRegex; cases isRegex]
    exact (reports_register _).bind fun _ _ => .pure rfl
  · have offences : Form.patternOffences [(op.name, operand)]
        = Form.textOffences pattern.text? ++ [] := by
      subst isRegex
      obtain ⟨json, others, spelled, more, listed⟩ := List.forall₂_cons_right_iff.mp read
      obtain ⟨second, others', -, -, rfl⟩ := List.forall₂_cons_right_iff.mp more
      simp only [Form.patternOffences, if_pos, listed, Form.matchOffences, spelled, List.append_nil]
    rw [offences]
    exact (reports_compileSpelled pattern).bind fun _ _ => .pure rfl
  · rw [patternOffences_eq_nil fun isRegex => absurd isRegex notRegex]
    exact .pure rfl

/-- A scalar that is read spells a text if it is one. -/
theorem text?_ofJson (scalar : Json.Scalar) :
    Expr.text? (.literal (.scalar (Scalar.ofJson scalar))) = Form.text? (.scalar scalar) := by
  cases scalar with
  | null | bool | string => rfl
  | number value =>
      cases value with
      | double value finite => rfl
      | integer value inRange =>
          rw [Scalar.ofJson, Scalar.ofNumber]
          split <;> rfl

/-- Reading a form reports its offences, and only a text is read as one. -/
theorem reports_ofJson (json : Json) :
    Reports (ofJson json) (Form.offences json) fun e => e.text? = Form.text? json := by
  induction json using formInduct with
  | scalar value =>
      exact .pure (text?_ofJson value)
  | array items ih =>
      rw [ofJson_array, Form.offences, Form.offencesItems_eq, ← List.append_nil (items.flatMap _)]
      exact (Reports.mapM ih).bind fun _ _ => .pure rfl
  | apply key operand ih =>
      have offences : Form.offences (.object [(key, operand)])
          = Form.keyOffences [(key, operand)] ++ ((operandsOf operand).flatMap Form.offences
            ++ Form.patternOffences [(key, operand)]) := by
        rw [Form.offences, Form.offencesEntries_eq, List.flatMap_singleton,
          Form.offences_operandsOf, List.append_assoc]
      rw [ofJson_apply, offences]
      refine (reports_operator key).bind fun op named => ?_
      subst named
      exact (Reports.mapM ih).bind fun operands read => reports_build op read
  | keyCount entries wrong =>
      have offences : ∃ rest, Form.offences (.object entries) = .keyCount entries.length :: rest := by
        match entries, wrong with
        | [], _ => exact ⟨_, rfl⟩
        | _ :: _ :: _, _ => exact ⟨_, rfl⟩
      obtain ⟨rest, offences⟩ := offences
      rw [ofJson_keyCount wrong, offences]
      exact .more (.throw _)

end Compilation

end

namespace Rule

section

variable [PatternEngine]

/-- **Reading accepts the grammar.**  A form is read as a rule exactly if every object in it, at any
depth, applies an operator; otherwise the error is the first offence of the form. -/
theorem reads_the_grammar (json : Json) :
    ((∃ rule, ofJson json = .ok rule) ↔
      ∀ entries, .object entries ∈ json.parts → Form.IsApplication entries) ∧
    ∀ error, ofJson json = .error error ↔ (Form.offences json).head? = some error := by
  have reports := Compilation.reports_ofJson json
  rw [← Form.offences_eq_nil_iff]
  cases read : Compilation.ofJson json {} with
  | ok root table =>
      obtain ⟨none, -⟩ := reports.result read
      have accepted : ofJson json = .ok ⟨root, table⟩ := by rw [ofJson, read]
      rw [accepted, none]
      exact ⟨iff_of_true ⟨_, rfl⟩ rfl, fun error => iff_of_false nofun nofun⟩
  | error error table =>
      have first := reports.error read
      have rejected : ofJson json = .error error := by rw [ofJson, read]
      rw [rejected, first]
      refine ⟨iff_of_false nofun fun none => ?_, fun other => ?_⟩
      · rw [none] at first
        cases first
      · rw [Except.error.injEq, Option.some.injEq]

end

-- What is wrong with an operand comes before the pattern that it is to be matched with.
example :
    Form.offences (.object [("regex", .array
      [.scalar (.string "("), .object [("matches", .array [])], .object []])])
      = [.unknownOperator "matches", .keyCount 0, .invalidPattern ⟨"(", ""⟩] := by
  decide +kernel

end Rule

end JsonRules
