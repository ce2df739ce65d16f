/-
# JsonRules.Proofs.Documents -- reading a written document

Whatever the scalars of a document are and however its parts are spaced, the text that is written
for it is read as the document again (`read_write`): the keys have to be spelled as strings
(`SpellsKeys`), each leaf has to be read from its own text (`ReadsLeaf`), and what stands between the
parts has to be blank (`BlankSpacing`).  The loop of the reader follows the list of elements
(`elements_written`), and the depth that is left to the reader follows the depth of the document
(`readsBack`).  An object is read as its sorted entries, which are the entries themselves.

What double a text is read as is up to the library that rounds numbers.  It may be off by a little,
so it is asked of single doubles whether their text is read as they are (`RereadsDouble`).  Then this
is so at every place of a longer text (`number_render`), and with a library that takes the nearest
double it is so of all doubles (`rereadsDouble_of_nearest`).
-/
import JsonRules.Doc.Printer
import JsonRules.Proofs.Docs
import JsonRules.Proofs.Entries
import JsonRules.Proofs.Numerals
import JsonRules.Proofs.Quotes

namespace JsonRules

set_option autoImplicit false

namespace Json.Reader

/-! ## Blanks -/

/-- Nothing but spaces and line breaks. -/
def Blank (s : List Char) : Prop := ∀ c ∈ s, isBlank c = true

theorem skipBlanks_append {s : List Char} (blank : Blank s) (rest : List Char) :
    skipBlanks (s ++ rest) = skipBlanks rest :=
  List.dropWhile_append_of_pos blank

theorem skipBlanks_cons {c : Char} (some : isBlank c = false) (rest : List Char) :
    skipBlanks (c :: rest) = c :: rest := by
  simp [skipBlanks, some]

theorem endsNumber_append {s rest : List Char} (blank : Blank s) (ends : EndsNumber rest) :
    EndsNumber (s ++ rest) := by
  cases s with
  | nil => exact ends
  | cons c s =>
      intro d mem
      obtain rfl : c = d := by simpa using mem
      have space := blank c List.mem_cons_self
      simp only [isBlank, Bool.or_eq_true, decide_eq_true_eq] at space
      obtain ((rfl | rfl) | rfl) | rfl := space <;> decide

theorem StartsNumber.notBlank {c : Char} (start : StartsNumber c) : isBlank c = false := by
  simp only [isBlank, Bool.or_eq_false_iff, decide_eq_false_iff_not]
  exact ⟨⟨⟨start.ne (by decide), start.ne (by decide)⟩, start.ne (by decide)⟩,
    start.ne (by decide)⟩

/-! ## Elements -/

section Elements

variable {α β : Type} {brackets : Brackets} {element : List Char → Except Stop (α × List Char)}
  {text : β → List Char} {image : β → α} {space last : List Char}

/-- A text starts with something that is neither a blank nor the closing bracket. -/
def Starts (close : Char) (s : List Char) : Prop :=
  ∃ c cs, s = c :: cs ∧ isBlank c = false ∧ c ≠ close

/-- What starts like a number is no blank and no closing bracket. -/
theorem StartsNumber.starts {text : List Char} (starts : ∃ c cs, text = c :: cs ∧ StartsNumber c) :
    Starts ']' text := by
  obtain ⟨c, cs, same, start⟩ := starts
  exact ⟨c, cs, same, start.notBlank, start.ne (by decide)⟩

/-- The brackets are no blanks and no commas, and end a number. -/
structure Brackets.Closes (brackets : Brackets) : Prop where
  notBlank : isBlank brackets.close = false
  notComma : ',' ≠ brackets.close
  ends : ∀ rest, EndsNumber (brackets.close :: rest)

theorem closes_array : Brackets.array.Closes :=
  ⟨rfl, by decide, fun rest c mem => by cases mem; decide⟩

theorem closes_object : Brackets.object.Closes :=
  ⟨rfl, by decide, fun rest c mem => by cases mem; decide⟩

/-- Behind an element that is read, a comma leads on to the next one. -/
theorem elements_comma (blank : Blank space) {x y : β} {fuel : Nat}
    (reads : ∀ rest, EndsNumber rest → element (text x ++ rest) = .ok (image x, rest))
    (starts : Starts brackets.close (text y)) (notComma : ',' ≠ brackets.close)
    (behind : List Char) :
    elements brackets element (fuel + 1) (text x ++ ',' :: (space ++ (text y ++ behind)))
      = (elements brackets element fuel (text y ++ behind)).map
          fun (ys, rest) => (image x :: ys, rest) := by
  have comma (rest : List Char) : EndsNumber (',' :: rest) := fun c mem => by cases mem; decide
  obtain ⟨c, cs, same, some, notClose⟩ := starts
  rw [elements, reads _ (comma _)]
  simp only [bind, Except.bind]
  rw [skipBlanks_cons rfl]
  dsimp only
  rw [if_neg notComma, if_pos rfl, skipBlanks_append blank, same, List.cons_append,
    skipBlanks_cons some]
  dsimp only
  rw [if_neg notClose]
  simp only [Except.map]

theorem elements_written (closes : brackets.Closes) (blank : Blank space) (blank' : Blank last)
    {x : β} {xs : List β} {fuel : Nat} (rest : List Char) (enough : xs.length < fuel)
    (reads : ∀ y ∈ x :: xs, ∀ rest, EndsNumber rest →
      element (text y ++ rest) = .ok (image y, rest))
    (starts : ∀ y ∈ xs, Starts brackets.close (text y)) :
    elements brackets element fuel (text x ++ (xs.flatMap (fun y => ',' :: (space ++ text y))
        ++ (last ++ brackets.close :: rest)))
      = .ok (image x :: xs.map image, rest) := by
  induction xs generalizing x fuel with
  | nil =>
      obtain ⟨fuel, rfl⟩ := Nat.exists_eq_add_one_of_ne_zero (Nat.ne_zero_of_lt enough)
      rw [elements, List.flatMap_nil, List.nil_append,
        reads x List.mem_cons_self _ (endsNumber_append blank' (closes.ends rest))]
      simp only [bind, Except.bind]
      rw [skipBlanks_append blank', skipBlanks_cons closes.notBlank]
      simp
  | cons y ys ih =>
      obtain ⟨fuel, rfl⟩ := Nat.exists_eq_add_one_of_ne_zero (Nat.ne_zero_of_lt enough)
      have next := ih (Nat.lt_of_succ_lt_succ enough)
        (fun z mem => reads z (List.mem_cons_of_mem x mem))
        (fun z mem => starts z (List.mem_cons_of_mem y mem))
      rw [List.flatMap_cons, List.cons_append, List.cons_append, List.append_assoc,
        List.append_assoc, elements_comma blank (reads x List.mem_cons_self)
          (starts y List.mem_cons_self) closes.notComma, next]
      rfl

theorem sequence_empty (closes : brackets.Closes)
    (element : List Char → Except Stop (α × List Char)) (rest : List Char) :
    sequence brackets element (brackets.close :: rest) = .ok ([], rest) := by
  rw [sequence, skipBlanks_cons closes.notBlank]
  exact if_pos rfl

/-- Where there is an element, the elements are read in turn. -/
theorem sequence_cons (blank : Blank space) {x : β} (starts : Starts brackets.close (text x))
    (behind : List Char) :
    sequence brackets element (space ++ (text x ++ behind))
      = elements brackets element (space ++ (text x ++ behind)).length (text x ++ behind) := by
  obtain ⟨c, cs, same, some, notClose⟩ := starts
  rw [sequence, skipBlanks_append blank, same, List.cons_append, skipBlanks_cons some]
  exact if_neg notClose

/-- The text of a sequence is longer than the sequence, so there is fuel for all elements. -/
theorem length_lt_length_sequence (xs : List β) (front back : List Char) :
    xs.length < (front ++ (xs.flatMap (fun y => ',' :: (space ++ text y))
      ++ (last ++ brackets.close :: back))).length := by
  have commas := length_le_length_flatMap (f := fun y => ',' :: (space ++ text y))
    (fun y => List.cons_ne_nil _ _) xs
  simp only [List.length_append, List.length_cons]
  omega

/-- What is written between brackets is read as what its elements are read as. -/
theorem sequence_written (closes : brackets.Closes) (blank : Blank space) (blank' : Blank last)
    {x : β} {xs : List β} (rest : List Char)
    (reads : ∀ y ∈ x :: xs, ∀ rest, EndsNumber rest →
      element (text y ++ rest) = .ok (image y, rest))
    (starts : ∀ y ∈ x :: xs, Starts brackets.close (text y)) :
    sequence brackets element (space ++ (text x ++ (xs.flatMap (fun y => ',' :: (space ++ text y))
        ++ (last ++ brackets.close :: rest))))
      = .ok (image x :: xs.map image, rest) := by
  rw [sequence_cons blank (starts x List.mem_cons_self)]
  refine elements_written closes blank blank' rest ?_ reads
    fun y mem => starts y (List.mem_cons_of_mem x mem)
  rw [← List.append_assoc]
  exact length_lt_length_sequence xs _ rest

end Elements

/-! ## The parts of a written document -/

section Written

variable {σ : Type}

/-- What is written between the parts of a document are blanks, but for the colon. -/
structure BlankSpacing (spacing : Doc.Spacing) : Prop where
  lineBreak : ∀ depth, Blank (spacing.lineBreak depth)
  colon : ∃ behind, spacing.colon = ':' :: behind ∧ Blank behind

theorem blank_compact : BlankSpacing .compact :=
  ⟨fun _ _ mem => absurd mem List.not_mem_nil, [], rfl, fun _ mem => absurd mem List.not_mem_nil⟩

theorem blank_indented : BlankSpacing .indented := by
  refine ⟨fun depth c mem => ?_, [' '], rfl, by simp [Blank, isBlank]⟩
  obtain rfl | mem := List.mem_cons.mp mem
  · rfl
  · rw [List.eq_of_mem_replicate mem]
    rfl

theorem writeItems_eq (spelling : Doc.Spelling σ) (spacing : Doc.Spacing) (indent : Nat)
    (items : List (Doc σ)) :
    Doc.writeItems spelling spacing indent items
      = items.flatMap fun item =>
          ',' :: (spacing.lineBreak indent ++ item.write spelling spacing indent) := by
  induction items with
  | nil => rfl
  | cons item rest ih => simp [Doc.writeItems, ih]

/-- A key, the colon and the document under the key. -/
def entryText (spelling : Doc.Spelling σ) (spacing : Doc.Spacing) (indent : Nat)
    (entry : String × Doc σ) : List Char :=
  spelling.key entry.1 ++ (spacing.colon ++ entry.2.write spelling spacing indent)

theorem write_array (spelling : Doc.Spelling σ) (spacing : Doc.Spacing) (indent : Nat)
    (item : Doc σ) (items : List (Doc σ)) (rest : List Char) :
    (Doc.array (item :: items)).write spelling spacing indent ++ rest
      = '[' :: (spacing.lineBreak (indent + 1) ++ (item.write spelling spacing (indent + 1)
          ++ (items.flatMap (fun item => ',' :: (spacing.lineBreak (indent + 1)
            ++ item.write spelling spacing (indent + 1)))
          ++ (spacing.lineBreak indent ++ Brackets.array.close :: rest)))) := by
  simp [Doc.write, writeItems_eq, Brackets.array]

theorem writeEntries_eq (spelling : Doc.Spelling σ) (spacing : Doc.Spacing) (indent : Nat)
    (entries : List (String × Doc σ)) :
    Doc.writeEntries spelling spacing indent entries
      = entries.flatMap fun entry =>
          ',' :: (spacing.lineBreak indent ++ entryText spelling spacing indent entry) := by
  induction entries with
  | nil => rfl
  | cons entry rest ih => simp [Doc.writeEntries, entryText, ih]

theorem write_object (spelling : Doc.Spelling σ) (spacing : Doc.Spacing) (indent : Nat)
    (entry : String × Doc σ) (entries : List (String × Doc σ)) (rest : List Char) :
    (Doc.object (entry :: entries)).write spelling spacing indent ++ rest
      = '{' :: (spacing.lineBreak (indent + 1) ++ (entryText spelling spacing (indent + 1) entry
          ++ (entries.flatMap (fun entry => ',' :: (spacing.lineBreak (indent + 1)
            ++ entryText spelling spacing (indent + 1) entry))
          ++ (spacing.lineBreak indent ++ Brackets.object.close :: rest)))) := by
  simp [Doc.write, writeEntries_eq, entryText, Brackets.object]

/-- A leaf starts with something that begins a value, and a key is read as a string. -/
structure SpellsKeys (spelling : Doc.Spelling σ) : Prop where
  starts : ∀ leaf, Starts ']' (spelling.scalar leaf)
  key : ∀ key rest, ∃ body, spelling.key key ++ rest = '"' :: body ∧ string body = .ok (key, rest)

variable {spelling : Doc.Spelling σ} (keys : SpellsKeys spelling) {spacing : Doc.Spacing}

include keys

theorem starts_write (doc : Doc σ) (indent : Nat) :
    Starts ']' (doc.write spelling spacing indent) := by
  cases doc with
  | scalar leaf => exact keys.starts leaf
  | array items =>
      cases items with
      | nil => exact ⟨_, _, rfl, rfl, by decide⟩
      | cons item rest => exact ⟨_, _, rfl, rfl, by decide⟩
  | object entries =>
      cases entries with
      | nil => exact ⟨_, _, rfl, rfl, by decide⟩
      | cons entry rest => exact ⟨_, _, rfl, rfl, by decide⟩

theorem starts_entryText (indent : Nat) (entry : String × Doc σ) :
    Starts '}' (entryText spelling spacing indent entry) := by
  obtain ⟨body, same, -⟩ := keys.key entry.1 []
  rw [List.append_nil] at same
  exact ⟨'"', _, by rw [entryText, same, List.cons_append], rfl, by decide⟩

end Written

/-! ## Documents -/

variable [Rounding]

theorem value_append_blank {s : List Char} (blank : Blank s) (depth : Nat) (rest : List Char) :
    value depth (s ++ rest) = value depth rest := by
  rw [value.eq_def, skipBlanks_append blank, value.eq_def depth rest]

theorem value_number (depth : Nat) {c : Char} (start : StartsNumber c) (s : List Char) :
    value depth (c :: s)
      = (number (c :: s)).map fun (n, rest) => (.scalar (.number n), rest) := by
  have number : (c = '-' || c.isDigit) = true := by simpa [StartsNumber] using start
  rw [value.eq_def, skipBlanks_cons start.notBlank]
  split
  case h_8 same =>
    obtain ⟨rfl, rfl⟩ := List.cons.inj same
    rw [if_pos number]
    rfl
  case h_1 same => cases same
  all_goals
    rename_i same
    exact absurd (List.cons.inj same).1 (start.ne (by decide))

theorem value_numberText (depth : Nat) {text : List Char}
    (starts : ∃ c cs, text = c :: cs ∧ StartsNumber c) (rest : List Char) :
    value depth (text ++ rest)
      = (number (text ++ rest)).map fun (n, rest) => (.scalar (.number n), rest) := by
  obtain ⟨c, cs, rfl, start⟩ := starts
  exact value_number depth start (cs ++ rest)

theorem value_string {depth : Nat} {s rest : List Char} {text : String}
    (read : string s = .ok (text, rest)) :
    value depth ('"' :: s) = .ok (.scalar (.string text), rest) := by
  rw [value.eq_def, skipBlanks_cons rfl]
  simp only [read, bind, Except.bind]

theorem value_array (depth : Nat) (s : List Char) :
    value (depth + 1) ('[' :: s)
      = (sequence .array (value depth) s).map fun (items, rest) => (.array items, rest) := by
  rw [value, skipBlanks_cons rfl]
  simp only [bind, Except.bind, Except.map]

theorem value_object (depth : Nat) (s : List Char) :
    value (depth + 1) ('{' :: s)
      = (sequence .object (entry (value depth)) s).map
          fun (entries, rest) => (.object (Entries.ofList entries), rest) := by
  rw [value, skipBlanks_cons rfl]
  simp only [bind, Except.bind, Except.map]

/-! ## Doubles -/

/-- The text of a double in a layout is read as this double. -/
def RereadsDouble (layout : Decimal.Layout) (x : Float) : Prop :=
  ∀ finite : x.isFinite = true,
    read (String.ofList (layout.render x)) = .ok (.scalar (.number (.double x finite)))

instance (layout : Decimal.Layout) (x : Float) : Decidable (RereadsDouble layout x) :=
  inferInstanceAs (Decidable (∀ finite : x.isFinite = true,
    read (String.ofList (layout.render x)) = .ok (.scalar (.number (.double x finite)))))

section Doubles

variable {layout : Decimal.Layout} (keeps : layout.keepsFraction = true) {x : Float}

/-- A text that is a numeral is read as the number that the numeral has. -/
theorem document_text (plus : Bool) {n : Numeral} (regular : n.IsRegular) :
    document (n.text plus) = match n.value? with
      | some value => .ok (.scalar (.number value))
      | none => stop .numberOutOfRange 0 [] := by
  have ends : EndsNumber [] := fun c mem => by cases mem
  have reads := number_text plus regular ends
  have alone := value_numberText maxDepth (starts_text plus regular) []
  rw [reads, List.append_nil] at alone
  rw [document, alone]
  cases n.value? <;> rfl

include keeps

/-- Where a double is read from its text, it is read from the front of a longer text, too. -/
theorem number_render (rereads : RereadsDouble layout x) (finite : x.isFinite = true)
    {rest : List Char} (ends : EndsNumber rest) :
    number (layout.render x ++ rest) = .ok (.double x finite, rest) := by
  obtain ⟨n, regular, -, text, -⟩ := Decimal.render_eq keeps finite
  have read := rereads finite
  rw [text, Json.read, String.toList_ofList, document_text _ regular] at read
  rw [text, number_text _ regular ends]
  cases value : n.value? with
  | none =>
      rw [value] at read
      cases read
  | some v =>
      rw [value] at read
      cases read
      rfl

/-- With a library that takes the nearest double, every double is read from its text. -/
theorem rereadsDouble_of_nearest (nearest : ∀ n : Numeral, Rounding.toDouble n = n.nearest) :
    RereadsDouble layout x := by
  intro finite
  obtain ⟨n, regular, noInteger, text, same⟩ := Decimal.render_eq keeps finite
  have double : n.value? = some (.double x finite) := by
    rw [Numeral.value?, noInteger, nearest, same]
    exact dif_pos finite
  rw [text, Json.read, String.toList_ofList, document_text _ regular, double]

end Doubles

/-! ## Reading back -/

variable {σ : Type}

/-- A leaf is read from its text, at any depth and whatever stands behind it. -/
def ReadsLeaf (spelling : Doc.Spelling σ) (image : σ → Scalar) (leaf : σ) : Prop :=
  ∀ depth rest, EndsNumber rest →
    value depth (spelling.scalar leaf ++ rest) = .ok (.scalar (image leaf), rest)

section ReadBack

variable {spelling : Doc.Spelling σ} {image : σ → Scalar} {spacing : Doc.Spacing}
  (keys : SpellsKeys spelling) (blank : BlankSpacing spacing)

/-- The document is read back where so many arrays and objects may still be opened. -/
def ReadsBack (spelling : Doc.Spelling σ) (image : σ → Scalar) (spacing : Doc.Spacing) (depth : Nat)
    (doc : Doc σ) : Prop :=
  ∀ indent rest, EndsNumber rest →
    value depth (doc.write spelling spacing indent ++ rest) = .ok (doc.map image, rest)

include keys blank

theorem readsBack_array {depth : Nat} {items : List (Doc σ)}
    (each : ∀ item ∈ items, ReadsBack spelling image spacing depth item) :
    ReadsBack spelling image spacing (depth + 1) (.array items) := by
  intro indent rest _
  cases items with
  | nil =>
      have inside := sequence_empty closes_array (value depth) rest
      exact (value_array depth _).trans (congrArg (Except.map _) inside)
  | cons item items =>
      have inside := sequence_written closes_array
        (blank.lineBreak (indent + 1)) (blank.lineBreak indent) rest
        (fun y mem => each y mem (indent + 1)) (fun y _ => starts_write keys y (indent + 1))
      rw [Doc.map, Doc.mapItems_eq, write_array, value_array, inside]
      rfl

/-- Behind its key and the colon, an entry is read as the document under the key. -/
theorem entry_entryText (depth indent : Nat) (entry : String × Doc σ) (rest : List Char) :
    Reader.entry (value depth) (entryText spelling spacing indent entry ++ rest)
      = (value depth (entry.2.write spelling spacing indent ++ rest)).map
          fun (json, rest) => ((entry.1, json), rest) := by
  obtain ⟨behind, colon, space⟩ := blank.colon
  obtain ⟨body, same, key⟩ := keys.key entry.1
    (':' :: (behind ++ (entry.2.write spelling spacing indent ++ rest)))
  have text : entryText spelling spacing indent entry ++ rest = '"' :: body := by
    rw [← same]
    simp [entryText, colon]
  rw [text, Reader.entry, key]
  simp only [bind, Except.bind]
  rw [skipBlanks_cons rfl]
  simp only [value_append_blank space, Except.map]

theorem readsBack_object {depth : Nat} {entries : List (String × Doc σ)}
    (each : ∀ entry ∈ entries, ReadsBack spelling image spacing depth entry.2)
    (ordered : entries.Pairwise fun a b => a.1 < b.1) :
    ReadsBack spelling image spacing (depth + 1) (.object entries) := by
  intro indent rest _
  cases entries with
  | nil =>
      have inside := sequence_empty closes_object (Reader.entry (value depth)) rest
      exact (value_object depth _).trans (congrArg (Except.map _) inside)
  | cons entry entries =>
      have reads : ∀ y ∈ entry :: entries, ∀ rest, EndsNumber rest →
          Reader.entry (value depth) (entryText spelling spacing (indent + 1) y ++ rest)
            = .ok ((y.1, y.2.map image), rest) := by
        intro y mem rest ends
        rw [entry_entryText keys blank, each y mem (indent + 1) rest ends]
        rfl
      have inside := sequence_written closes_object
        (blank.lineBreak (indent + 1)) (blank.lineBreak indent) rest
        reads
        (fun y _ => starts_entryText keys (indent + 1) y)
      have sorted :
          Entries.ofList ((entry :: entries).map fun entry => (entry.1, entry.2.map image))
            = Doc.mapEntries image (entry :: entries) := by
        rw [Doc.mapEntries_eq]
        exact Entries.ofList_of_ordered (List.pairwise_map.mpr ordered)
      rw [write_object, value_object, inside, Doc.map, ← sorted]
      rfl

end ReadBack

/-! The induction is on the document; inside an array or an object one less may be opened. -/

mutual

theorem readsBack {spelling : Doc.Spelling σ} {image : σ → Scalar} {spacing : Doc.Spacing}
    (keys : SpellsKeys spelling) (blank : BlankSpacing spacing) :
    (doc : Doc σ) → doc.Ordered → doc.All (ReadsLeaf spelling image) → ∀ depth, doc.depth ≤ depth →
      ReadsBack spelling image spacing depth doc
  | .scalar _, _, reads, depth, _ => fun _ rest ends => reads depth rest ends
  | .array items, ordered, reads, depth, shallow => by
      rw [Doc.depth] at shallow
      obtain ⟨inner, rfl⟩ := Nat.exists_eq_add_of_le' (Nat.le_of_add_right_le shallow)
      exact readsBack_array keys blank
        (readsBackItems keys blank items ordered reads inner (by omega))
  | .object entries, ordered, reads, depth, shallow => by
      rw [Doc.depth] at shallow
      obtain ⟨inner, rfl⟩ := Nat.exists_eq_add_of_le' (Nat.le_of_add_right_le shallow)
      exact readsBack_object keys blank
        (readsBackEntries keys blank entries ordered.2 reads inner (by omega)) ordered.1

theorem readsBackItems {spelling : Doc.Spelling σ} {image : σ → Scalar} {spacing : Doc.Spacing}
    (keys : SpellsKeys spelling) (blank : BlankSpacing spacing) :
    (items : List (Doc σ)) → Doc.OrderedItems items → Doc.AllItems (ReadsLeaf spelling image) items →
      ∀ depth, Doc.depthItems items ≤ depth → ∀ item ∈ items,
        ReadsBack spelling image spacing depth item
  | [], _, _, _, _ => fun _ mem => absurd mem List.not_mem_nil
  | item :: rest, ordered, reads, depth, shallow => by
      rw [Doc.depthItems] at shallow
      rw [List.forall_mem_cons]
      exact ⟨readsBack keys blank item ordered.1 reads.1 depth (by omega),
        readsBackItems keys blank rest ordered.2 reads.2 depth (by omega)⟩

theorem readsBackEntries {spelling : Doc.Spelling σ} {image : σ → Scalar} {spacing : Doc.Spacing}
    (keys : SpellsKeys spelling) (blank : BlankSpacing spacing) :
    (entries : List (String × Doc σ)) → Doc.OrderedEntries entries →
      Doc.AllEntries (ReadsLeaf spelling image) entries → ∀ depth, Doc.depthEntries entries ≤ depth →
        ∀ entry ∈ entries, ReadsBack spelling image spacing depth entry.2
  | [], _, _, _, _ => fun _ mem => absurd mem List.not_mem_nil
  | (key, item) :: rest, ordered, reads, depth, shallow => by
      rw [Doc.depthEntries] at shallow
      rw [List.forall_mem_cons]
      exact ⟨readsBack keys blank item ordered.1 reads.1 depth (by omega),
        readsBackEntries keys blank rest ordered.2 reads.2 depth (by omega)⟩

end

/-- A document of at most the greatest depth is read back from its text, with blanks around it or
without. -/
theorem read_write {spelling : Doc.Spelling σ} {image : σ → Scalar} {spacing : Doc.Spacing}
    (keys : SpellsKeys spelling) (blank : BlankSpacing spacing) {doc : Doc σ}
    (ordered : doc.Ordered) (leaves : doc.All (ReadsLeaf spelling image))
    (shallow : doc.depth ≤ maxDepth) :
    read (String.ofList (doc.write spelling spacing 0)) = .ok (doc.map image) := by
  have reads := readsBack keys blank doc ordered leaves maxDepth shallow 0 []
    fun c mem => by cases mem
  rw [List.append_nil] at reads
  have whole : document (doc.write spelling spacing 0) = .ok (doc.map image) := by
    rw [document, reads]
    rfl
  rw [read, String.toList_ofList, whole]

end Json.Reader

end JsonRules
