/-
# JsonRules.Proofs.Printed -- printed JSON documents

The compact text of a document is read as the document (`Json.read_render`), as long as the document
is not deeper than the reader goes and the doubles in it are read from their texts
(`Json.Scalar.Rereads`).  A deeper one is refused: what stands before the place where the reader gives
up is read as usual, and there it says that this is too deep (`Json.read_render_deep`).
-/
import JsonRules.Json.Printer
import JsonRules.Proofs.Docs
import JsonRules.Proofs.Output

namespace JsonRules.Json

set_option autoImplicit false

namespace Reader

/-! ## Elements of which one is too deep -/

section Elements

variable {α β : Type} {brackets : Brackets} {element : List Char → Except Stop (α × List Char)}
  {text : β → List Char} {image : β → α} {space last : List Char}

/-- What is behind an element, a comma or the closing bracket, goes on with no number. -/
theorem endsNumber_behind (closes : brackets.Closes) (blank : Blank last) (xs : List β)
    (rest : List Char) :
    EndsNumber (xs.flatMap (fun y => ',' :: (space ++ text y))
      ++ (last ++ brackets.close :: rest)) := by
  cases xs with
  | nil =>
      rw [List.flatMap_nil, List.nil_append]
      exact endsNumber_append blank (closes.ends rest)
  | cons y ys =>
      intro c mem
      cases mem
      decide

/-- Elements are read up to the first one that is too deep. -/
theorem elements_refused (closes : brackets.Closes) (blank : Blank space) (blank' : Blank last)
    {deep : β → Prop} {x : β} {xs : List β} {fuel : Nat} (rest : List Char)
    (enough : xs.length < fuel)
    (reads : ∀ y ∈ x :: xs, ¬ deep y → ∀ rest, EndsNumber rest →
      element (text y ++ rest) = .ok (image y, rest))
    (refuses : ∀ y ∈ x :: xs, deep y → ∀ rest, EndsNumber rest →
      ∃ unread, element (text y ++ rest) = .error ⟨.tooDeep, unread⟩)
    (starts : ∀ y ∈ xs, Starts brackets.close (text y)) (some : ∃ y ∈ x :: xs, deep y) :
    ∃ unread, elements brackets element fuel
        (text x ++ (xs.flatMap (fun y => ',' :: (space ++ text y))
          ++ (last ++ brackets.close :: rest)))
      = .error ⟨.tooDeep, unread⟩ := by
  induction xs generalizing x fuel with
  | nil =>
      obtain ⟨fuel, rfl⟩ := Nat.exists_eq_add_one_of_ne_zero (Nat.ne_zero_of_lt enough)
      obtain ⟨y, member, isDeep⟩ := some
      obtain rfl := List.mem_singleton.mp member
      obtain ⟨unread, refused⟩ := refuses y List.mem_cons_self isDeep _
        (endsNumber_behind closes blank' [] rest)
      exact ⟨unread, by rw [elements, refused]; rfl⟩
  | cons y ys ih =>
      obtain ⟨fuel, rfl⟩ := Nat.exists_eq_add_one_of_ne_zero (Nat.ne_zero_of_lt enough)
      by_cases isDeep : deep x
      · obtain ⟨unread, refused⟩ := refuses x List.mem_cons_self isDeep _
          (endsNumber_behind closes blank' (y :: ys) rest)
        exact ⟨unread, by rw [elements, refused]; rfl⟩
      · have later : ∃ z ∈ y :: ys, deep z := by
          obtain ⟨z, member, deepZ⟩ := some
          rcases List.mem_cons.mp member with rfl | member
          · exact absurd deepZ isDeep
          · exact ⟨z, member, deepZ⟩
        obtain ⟨unread, refused⟩ := ih (Nat.lt_of_succ_lt_succ enough)
          (fun z mem => reads z (List.mem_cons_of_mem x mem))
          (fun z mem => refuses z (List.mem_cons_of_mem x mem))
          (fun z mem => starts z (List.mem_cons_of_mem y mem)) later
        refine ⟨unread, ?_⟩
        rw [List.flatMap_cons, List.cons_append, List.cons_append, List.append_assoc,
          List.append_assoc, elements_comma blank (reads x List.mem_cons_self isDeep)
            (starts y List.mem_cons_self) closes.notComma, refused]
        rfl

theorem sequence_refused (closes : brackets.Closes) (blank : Blank space) (blank' : Blank last)
    {deep : β → Prop} {x : β} {xs : List β} (rest : List Char)
    (reads : ∀ y ∈ x :: xs, ¬ deep y → ∀ rest, EndsNumber rest →
      element (text y ++ rest) = .ok (image y, rest))
    (refuses : ∀ y ∈ x :: xs, deep y → ∀ rest, EndsNumber rest →
      ∃ unread, element (text y ++ rest) = .error ⟨.tooDeep, unread⟩)
    (starts : ∀ y ∈ x :: xs, Starts brackets.close (text y)) (some : ∃ y ∈ x :: xs, deep y) :
    ∃ unread, sequence brackets element
        (space ++ (text x ++ (xs.flatMap (fun y => ',' :: (space ++ text y))
          ++ (last ++ brackets.close :: rest))))
      = .error ⟨.tooDeep, unread⟩ := by
  rw [sequence_cons blank (starts x List.mem_cons_self)]
  refine elements_refused closes blank blank' rest ?_ reads refuses
    (fun y mem => starts y (List.mem_cons_of_mem x mem)) some
  rw [← List.append_assoc]
  exact length_lt_length_sequence xs _ rest

end Elements

/-! ## Leaves -/

/-- The escapes of the printer are read back; of control characters some have one letter and the
others four digits. -/
theorem readsEscapes_printed : ReadsEscapes Json.escape where
  some c := by
    unfold Json.escape
    split
    case h_8 =>
      split
      · simp [Text.fourDigitEscape]
      · simp
    all_goals simp
  reads c fuel tail := by
    unfold Json.escape
    split
    case h_1 | h_2 | h_3 | h_4 | h_5 | h_6 | h_7 => exact @stringBody_escaped fuel _ [_] tail rfl
    case h_8 quote backslash _ _ _ _ _ =>
      split
      · rename_i control
        have small : c.toNat < 0x100 := by omega
        rw [fourDigitEscape_eq small]
        exact stringBody_escaped (escape_fourDigits small tail)
      · rename_i plain
        exact stringBody_plain quote backslash plain

/-- How the leaves of a document are printed. -/
def printed : Doc.Spelling Scalar := ⟨Scalar.text, Text.quote Json.escape⟩

/-- The text of a number starts with its sign or with a digit. -/
theorem starts_printed (n : Number) :
    ∃ c cs, (Scalar.number n).text = c :: cs ∧ StartsNumber c := by
  cases n with
  | integer value inRange =>
      rw [Scalar.text, integerText_eq true]
      exact starts_text true (Numeral.isRegular_ofInt _)
  | double value finite =>
      obtain ⟨n, regular, -, text, -⟩ := @Decimal.render_eq doubleLayout rfl _ finite
      rw [Scalar.text, text]
      exact starts_text _ regular

theorem spellsKeys_printed : SpellsKeys printed where
  starts leaf := by
    cases leaf with
    | null | string value => exact ⟨_, _, rfl, rfl, by decide⟩
    | bool value => cases value <;> exact ⟨_, _, rfl, rfl, by decide⟩
    | number n => exact StartsNumber.starts (starts_printed n)
  key key rest := string_quote readsEscapes_printed key rest

end Reader

variable [Rounding]

/-- A double is read from its text. -/
def Scalar.Rereads : Scalar → Prop
  | .number (.double x _) => Reader.RereadsDouble doubleLayout x
  | _ => True

instance : DecidablePred Scalar.Rereads
  | .number (.double x _) => inferInstanceAs (Decidable (Reader.RereadsDouble doubleLayout x))
  | .number (.integer _ _) | .null | .bool _ | .string _ => .isTrue trivial

namespace Reader

theorem number_printed {n : Number} (rereads : (Scalar.number n).Rereads) {rest : List Char}
    (ends : EndsNumber rest) : number ((Scalar.number n).text ++ rest) = .ok (n, rest) := by
  cases n with
  | integer value inRange => exact number_integerText inRange ends
  | double value finite => exact number_render rfl rereads finite ends

theorem readsLeaf_printed {leaf : Scalar} (rereads : leaf.Rereads) : ReadsLeaf printed id leaf := by
  intro depth rest ends
  cases leaf with
  | null => exact JsonRules.Scalar.value_null depth rest
  | bool bit => exact JsonRules.Scalar.value_bool bit depth rest
  | number n =>
      have text : printed.scalar (.number n) = (Scalar.number n).text := rfl
      rw [text, value_numberText depth (starts_printed n), number_printed rereads ends]
      rfl
  | string text =>
      obtain ⟨body, same, read⟩ := string_quote readsEscapes_printed text rest
      exact (congrArg _ same).trans (value_string read)

/-! ## Documents that are too deep -/

section Refuses

variable {σ : Type} {spelling : Doc.Spelling σ} {image : σ → Scalar} {spacing : Doc.Spacing}
  (keys : SpellsKeys spelling) (blank : BlankSpacing spacing)

/-- The document is refused where so many arrays and objects may still be opened. -/
def Refuses (spelling : Doc.Spelling σ) (spacing : Doc.Spacing) (depth : Nat) (doc : Doc σ) :
    Prop :=
  ∀ indent rest, EndsNumber rest →
    ∃ unread, value depth (doc.write spelling spacing indent ++ rest) = .error ⟨.tooDeep, unread⟩

/-- No array may be opened any more. -/
theorem refuses_array_zero (items : List (Doc σ)) :
    Refuses spelling spacing 0 (.array items) := by
  intro indent rest _
  have opens : ∃ s, (Doc.array items).write spelling spacing indent ++ rest = '[' :: s := by
    cases items with
    | nil => exact ⟨_, rfl⟩
    | cons item items => exact ⟨_, write_array ..⟩
  obtain ⟨s, opens⟩ := opens
  rw [opens, value, skipBlanks_cons rfl]
  exact ⟨_, rfl⟩

/-- No object may be opened any more. -/
theorem refuses_object_zero (entries : List (String × Doc σ)) :
    Refuses spelling spacing 0 (.object entries) := by
  intro indent rest _
  have opens : ∃ s, (Doc.object entries).write spelling spacing indent ++ rest = '{' :: s := by
    cases entries with
    | nil => exact ⟨_, rfl⟩
    | cons entry entries => exact ⟨_, write_object ..⟩
  obtain ⟨s, opens⟩ := opens
  rw [opens, value, skipBlanks_cons rfl]
  exact ⟨_, rfl⟩

include keys blank

theorem refuses_array {depth : Nat} {items : List (Doc σ)} (ordered : Doc.OrderedItems items)
    (leaves : Doc.AllItems (ReadsLeaf spelling image) items)
    (some : ∃ item ∈ items, depth < item.depth)
    (each : ∀ item ∈ items, depth < item.depth → Refuses spelling spacing depth item) :
    Refuses spelling spacing (depth + 1) (.array items) := by
  intro indent rest _
  rw [Doc.orderedItems_iff] at ordered
  rw [Doc.allItems_iff] at leaves
  cases items with
  | nil => simp at some
  | cons item items =>
      have reads : ∀ y ∈ item :: items, ¬ depth < y.depth → ∀ rest, EndsNumber rest →
          value depth (y.write spelling spacing (indent + 1) ++ rest)
            = .ok (y.map image, rest) := fun y mem shallow =>
        readsBack keys blank y (ordered y mem) (leaves y mem) depth (Nat.not_lt.mp shallow) (indent + 1)
      obtain ⟨unread, refused⟩ := sequence_refused closes_array (blank.lineBreak (indent + 1))
        (blank.lineBreak indent) rest reads (fun y mem deep => each y mem deep (indent + 1))
        (fun y _ => starts_write keys y (indent + 1)) some
      exact ⟨unread, by rw [write_array, value_array, refused]; rfl⟩

theorem refuses_object {depth : Nat} {entries : List (String × Doc σ)}
    (ordered : Doc.OrderedEntries entries)
    (leaves : Doc.AllEntries (ReadsLeaf spelling image) entries)
    (some : ∃ entry ∈ entries, depth < entry.2.depth)
    (each : ∀ entry ∈ entries, depth < entry.2.depth → Refuses spelling spacing depth entry.2) :
    Refuses spelling spacing (depth + 1) (.object entries) := by
  intro indent rest _
  rw [Doc.orderedEntries_iff] at ordered
  rw [Doc.allEntries_iff] at leaves
  cases entries with
  | nil => simp at some
  | cons entry entries =>
      have reads : ∀ y ∈ entry :: entries, ¬ depth < y.2.depth → ∀ rest, EndsNumber rest →
          Reader.entry (value depth) (entryText spelling spacing (indent + 1) y ++ rest)
            = .ok ((y.1, y.2.map image), rest) := by
        intro y mem shallow rest ends
        have below := readsBack keys blank y.2 (ordered y mem) (leaves y mem) depth
          (Nat.not_lt.mp shallow) (indent + 1) rest ends
        rw [entry_entryText keys blank, below]
        rfl
      have refuses : ∀ y ∈ entry :: entries, depth < y.2.depth → ∀ rest, EndsNumber rest →
          ∃ unread, Reader.entry (value depth) (entryText spelling spacing (indent + 1) y ++ rest)
            = .error ⟨.tooDeep, unread⟩ := by
        intro y mem deep rest ends
        obtain ⟨unread, refused⟩ := each y mem deep (indent + 1) rest ends
        exact ⟨unread, by rw [entry_entryText keys blank, refused]; rfl⟩
      obtain ⟨unread, refused⟩ := sequence_refused closes_object (blank.lineBreak (indent + 1))
        (blank.lineBreak indent) rest reads refuses
        (fun y _ => starts_entryText keys (indent + 1) y) some
      exact ⟨unread, by rw [write_object, value_object, refused]; rfl⟩

/-- Where a document is deeper than the reader may go on, it is refused. -/
theorem refuses_deep (doc : Doc σ) (ordered : doc.Ordered)
    (leaves : doc.All (ReadsLeaf spelling image)) {depth : Nat} (deep : depth < doc.depth) :
    Refuses spelling spacing depth doc := by
  induction doc using Doc.induct generalizing depth with
  | scalar leaf => exact absurd deep (Nat.not_lt_zero depth)
  | array items ih =>
      cases depth with
      | zero => exact refuses_array_zero items
      | succ depth =>
          have inside : depth < Doc.depthItems items := by
            rw [Doc.depth] at deep
            omega
          have sorted := (Doc.orderedItems_iff items).mp ordered
          have below := (Doc.allItems_iff items).mp leaves
          refine refuses_array keys blank ordered leaves (Doc.lt_depthItems_iff.mp inside) ?_
          exact fun item mem deep => ih item mem (sorted item mem) (below item mem) deep
  | object entries ih =>
      cases depth with
      | zero => exact refuses_object_zero entries
      | succ depth =>
          have inside : depth < Doc.depthEntries entries := by
            rw [Doc.depth] at deep
            omega
          have sorted := (Doc.orderedEntries_iff entries).mp ordered.2
          have below := (Doc.allEntries_iff entries).mp leaves
          refine refuses_object keys blank ordered.2 leaves (Doc.lt_depthEntries_iff.mp inside) ?_
          exact fun entry mem deep => ih entry mem (sorted entry mem) (below entry mem) deep

end Refuses

end Reader

/-! ## Printing and reading -/

/-- A printed document is read back. -/
theorem read_render {json : Json} (ordered : json.Ordered) (rereads : json.All Scalar.Rereads)
    (shallow : json.depth ≤ Reader.maxDepth) : read json.render = .ok json := by
  have leaves := rereads.imp fun _ => Reader.readsLeaf_printed
  have back := Reader.read_write Reader.spellsKeys_printed Reader.blank_compact ordered leaves shallow
  rw [Doc.map_id] at back
  exact back

/-- A printed document that is too deep is refused. -/
theorem read_render_deep {json : Json} (ordered : json.Ordered) (rereads : json.All Scalar.Rereads)
    (deep : Reader.maxDepth < json.depth) :
    ∃ error, read json.render = .error error ∧ error.cause = .tooDeep := by
  have leaves := rereads.imp fun _ => Reader.readsLeaf_printed
  obtain ⟨unread, refused⟩ := Reader.refuses_deep Reader.spellsKeys_printed Reader.blank_compact
    json ordered leaves deep 0 [] fun c mem => by cases mem
  rw [List.append_nil] at refused
  have whole : Reader.document json.render.toList = .error ⟨.tooDeep, unread⟩ := by
    rw [render, String.toList_ofList]
    show Reader.document (json.write Reader.printed .compact 0) = _
    rw [Reader.document, refused]
    rfl
  exact ⟨_, by rw [read, whole], rfl⟩

end JsonRules.Json
