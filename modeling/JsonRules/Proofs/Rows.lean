/-
# JsonRules.Proofs.Rows -- rows of values

A row of values is indexed by slots.  The slots of a rule are the positions of its names, so
nothing is lost against a search by name: every run on a row is the run on a host that searches
the names and pays no attention to slots (`Rule.row_is_searched`).

A row can also be laid out as an object with the names for its keys.  There a name is a path, and
a key that is spelled like the whole path wins over its parts, so a name means its own value even
if other names continue it behind a dot (`Rule.row_is_record`).  Only a variable for the whole
record would tell the two apart, unless it stands in a body, where neither is asked.
-/
import JsonRules.Libraries
import JsonRules.Proofs.Bodies
import JsonRules.Proofs.Entries
import JsonRules.Proofs.Lookups

namespace JsonRules

set_option autoImplicit false

/-! ## The position of a name -/

/-- In a list without repetition a name is found where it stands. -/
theorem idxOf?_of_getElem? {names : List String} (nodup : names.Nodup) {slot : Nat} {name : String}
    (stands : names[slot]? = some name) : names.idxOf? name = some slot := by
  obtain ⟨bound, rfl⟩ := List.getElem?_eq_some_iff.mp stands
  rw [List.idxOf?_eq_some_iff]
  refine ⟨bound, rfl, fun j earlier same => ?_⟩
  have collide := (List.Nodup.getElem_inj_iff nodup).mp same
  omega

/-- Values in the order of a list of names, found by the first position of the name. -/
def Host.searching (names : List String) (values : List Value) : Host := fun name _ =>
  (names.idxOf? name).bind (values[·]?)

/-- A variable that is listed is found in its slot or by its name alike. -/
theorem positional_eq_searching {table : NameTable} (sound : table.Sound) (values : List Value)
    {name : String} {slot : Option Nat} (lists : table.Lists name slot) :
    Host.positional table.names values name slot
      = Host.searching table.names values name slot := by
  rcases lists with ⟨k, rfl, stands⟩ | ⟨rfl, -⟩
  · simp [Host.positional, Host.searching, idxOf?_of_getElem? sound.nodup stands]
  · simp [Host.positional, Host.searching]

/-! ## Rows as objects -/

/-- A key of an object is found as it is spelled, whatever dots it has. -/
theorem Path.resolve?_key {entries : Entries Value} {name : String} (nonempty : name ≠ "")
    {value : Value} (found : Entries.get? name entries = some value) :
    Path.resolve? (.object entries) name = some value := by
  have whole := joined_segments name.toList
  have letters : name.toList ≠ [] := by simpa using nonempty
  unfold resolve?
  cases parts : segments name.toList with
  | nil => exact absurd parts (segments_ne_nil _)
  | cons part rest =>
      rw [parts] at whole
      simp only [follow, whole, if_neg letters, select?, String.ofList_toList, found]

/-- The object that has names for its keys and a row for its values. -/
def Value.ofRow (names : List String) (values : List Value) : Value :=
  .object (Entries.ofList (names.zip values))

/-- A name in its slot has one value, by the row and by the object. -/
theorem positional_eq_record {table : NameTable} (sound : table.Sound) {values : List Value}
    (length : values.length = table.names.length) {name : String} {slot : Nat}
    (stands : table.names[slot]? = some name) :
    Host.positional table.names values name (some slot)
      = Host.record (.ofRow table.names values) name (some slot) := by
  obtain ⟨bound, rfl⟩ := List.getElem?_eq_some_iff.mp stands
  have here : values[slot]? = some values[slot] := List.getElem?_eq_getElem (length ▸ bound)
  have nonempty : table.names[slot] ≠ "" := fun empty =>
    sound.nonempty (empty ▸ List.getElem_mem bound)
  have keys : (table.names.zip values).map Prod.fst = table.names :=
    List.map_fst_zip (Nat.le_of_eq length.symm)
  have entry : (table.names[slot], values[slot]) ∈ table.names.zip values := by
    refine List.mem_of_getElem? (i := slot) ?_
    rw [List.getElem?_zip_eq_some]
    exact ⟨stands, here⟩
  have found := Entries.get?_ofList (keys.symm ▸ sound.nodup) entry
  rw [Host.record, Value.ofRow, Path.resolve?_key nonempty found]
  simp [Host.positional, here]

/-! ## Runs on rows -/

/-- The node is a variable for the whole record: its name is null or empty. -/
def Expr.AsksRecord [PatternEngine] : Expr → Prop
  | .var name _ => name = .literal .null ∨ name = .literal (.string "")
  | _ => False

instance Expr.decidableAsksRecord [PatternEngine] : (e : Expr) → Decidable e.AsksRecord
  | .var name _ =>
      inferInstanceAs (Decidable (name = .literal .null ∨ name = .literal (.string "")))
  | .literal _ | .array _ | .regex _ _ _ | .call _ _ => isFalse id

namespace Rule

section

variable [PatternEngine]

/-- **A row is found by slot as it is found by name.**  For any rule, also one that computes names
or asks for the whole record, and any values, however few or many: the run on the row is the run on
a host that searches the first position of a name and pays no attention to its slot. -/
theorem row_is_searched {json : Json} {rule : Rule} (read : ofJson json = .ok rule)
    (values : List Value) :
    rule.run (.positional rule.table.names values)
      = rule.run (.searching rule.table.names values) :=
  (eval_congr (compiled_of_ofJson read) fun _ _ lists =>
    positional_eq_searching (sound_of_ofJson read) values lists).1

end

/-- A form that uses a name twice and another only where it is dropped, computes a name and asks for
the whole record. -/
def sparseForm : Json :=
  .object [("merge", .array
    [.object [("!", .array
      [.object [("var", .scalar (.string "open"))],
       .object [("var", .scalar (.string "dropped"))]])],
     .object [("var", .scalar (.string "late"))],
     .object [("var", .object [("cat", .array
      [.scalar (.string "dro"), .scalar (.string "pped")])])],
     .object [("var", .scalar .null)],
     .object [("var", .scalar (.string "open"))]])]

/-- The rule of that form. -/
def sparse : Rule where
  root := .call (.fold .merge)
    [.call .not [.var (.literal (.string "open")) (some 0)],
     .var (.literal (.string "late")) (some 2),
     .var (.call (.fold .concat) [.literal (.string "dro"), .literal (.string "pped")]) none,
     .var (.literal .null) none,
     .var (.literal (.string "open")) (some 0)]
  table := {
    names := ["open", "dropped", "late"]
    slots := [("dropped", 1), ("late", 2), ("open", 0)]
    hasComputed := true }

/-- Too short a row for that rule. -/
def sparseRow : List Value := [Value.bool false, Value.string "x"]

/-- The last name has no value, by slot or by name; the dropped one has its own, since its name is
computed elsewhere. -/
theorem row_is_searched_sparse :
    ofJson sparseForm = .ok sparse ∧
      (sparse.run (.searching ["open", "dropped", "late"] sparseRow)).outcome
        = .ok (.array
          [Value.bool true, Value.null, Value.string "x", Value.null, Value.bool false]) ∧
      sparse.run (.positional ["open", "dropped", "late"] sparseRow)
        = sparse.run (.searching ["open", "dropped", "late"] sparseRow) := by
  have read : ofJson sparseForm = .ok sparse := by decide
  exact ⟨read, by decide, row_is_searched read sparseRow⟩

section

variable [PatternEngine]

/-- Outside of bodies a rule asks only for names in their slots, if it computes no name and does not
ask for the whole record there. -/
theorem looksUp_of_named {table : NameTable} {e : Expr} (compiled : e.Everywhere table.Compiled)
    (closed : table.hasComputed = false) (named : ∀ node ∈ e.outerNodes, ¬ node.AsksRecord) :
    ∀ node ∈ e.outerNodes, Simulation.LooksUp
      (fun name slot => ∃ k, slot = some k ∧ table.names[k]? = some name) node := by
  intro node outer
  have member := Expr.mem_nodes_of_mem_outerNodes outer
  cases node with
  | var operand slot =>
      intro name gives
      have places : table.Places operand slot := compiled _ member
      cases view : operand.naming with
      | spelled text =>
          obtain ⟨k, same, stands⟩ := (NameTable.places_spelled view).mp places
          obtain ⟨-, rfl⟩ := Expr.naming_eq_spelled_iff.mp view
          cases gives
          exact ⟨k, same, stands⟩
      | record => exact absurd (Expr.naming_eq_record_iff.mp view) (named _ outer)
      | computed =>
          have known := ((NameTable.places_computed view).mp places).2
          rw [closed] at known
          cases known
  | _ => exact looksUp_of_compiled compiled _ member

/-- **A row is a record.**  For a rule that computes no name, and outside of bodies does not ask for
the whole record, the run on a row is the run on the object that has the names for its keys and the
row for its values, whatever dots and digits the names are made of. -/
theorem row_is_record {json : Json} {rule : Rule} (read : ofJson json = .ok rule)
    (closed : rule.table.hasComputed = false)
    (named : ∀ node ∈ rule.root.outerNodes, ¬ node.AsksRecord) {values : List Value}
    (length : values.length = rule.table.names.length) :
    rule.run (.positional rule.table.names values)
      = rule.run (.record (.ofRow rule.table.names values)) := by
  refine eval_eq_of_outerNodes ?_ rule.root
    (looksUp_of_named (compiled_of_ofJson read) closed named)
  rintro name slot ⟨k, rfl, stands⟩
  exact positional_eq_record (sound_of_ofJson read) length stands

end

/-- A form with names that continue each other behind a dot, a name that is a number, and a body
that asks for its element. -/
def dottedForm : Json :=
  .object [("merge", .array
    [.object [("var", .scalar (.string "a.b"))],
     .object [("var", .scalar (.string "a"))],
     .object [("map", .array
      [.object [("var", .scalar (.string "0"))], .object [("var", .scalar (.string ""))]])]])]

/-- The rule of that form. -/
def dotted : Rule where
  root := .call (.fold .merge)
    [.var (.literal (.string "a.b")) (some 0),
     .var (.literal (.string "a")) (some 1),
     .call .map [.var (.literal (.string "0")) (some 2), .var (.literal (.string "")) none]]
  table := {
    names := ["a.b", "a", "0"]
    slots := [("0", 2), ("a", 1), ("a.b", 0)] }

/-- The object under one name has a field that another name would be a path to. -/
def dottedRow : List Value :=
  [Value.string "key", .object [("b", Value.string "path")], .array [Value.string "element"]]

theorem row_is_record_dotted :
    ofJson dottedForm = .ok dotted ∧
      (∀ node ∈ dotted.root.outerNodes, ¬ node.AsksRecord) ∧
      (dotted.run (.record (.ofRow ["a.b", "a", "0"] dottedRow))).outcome
        = .ok (.array [Value.string "key", .object [("b", Value.string "path")],
          Value.string "element"]) ∧
      dotted.run (.positional ["a.b", "a", "0"] dottedRow)
        = dotted.run (.record (.ofRow ["a.b", "a", "0"] dottedRow)) := by
  have read : ofJson dottedForm = .ok dotted := by decide
  have named : ∀ node ∈ dotted.root.outerNodes, ¬ node.AsksRecord := by decide
  exact ⟨read, named, by decide, row_is_record read rfl named rfl⟩

end Rule

end JsonRules
