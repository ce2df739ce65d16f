/-
# JsonRules.Proofs.Output -- output reads back

Both texts of a value, the compact one and the one with one element a line, are read as the JSON
document that the value stands for (`Value.text_reads_back`), if the doubles in it are read from
their texts (`Scalar.Rereads`).  With a library that takes the nearest double all of them are
(`Value.read_texts_of_nearest`).  Here each scalar is read back from its own text
(`Scalar.readsLeaf_json`); that the parts of the whole text are found again is
`Json.Reader.read_write`.  What a document is taken for differs from the value it came from in two
ways only (`Scalar.settled`).
-/
import JsonRules.Libraries
import JsonRules.Proofs.Documents
import JsonRules.Value.Printer

namespace JsonRules

set_option autoImplicit false

open Json.Reader

namespace Scalar

/-! ## The text of a scalar -/

theorem keepsFraction : doubleLayout.keepsFraction = true := rfl

theorem jsonText_finite {value : Float} (finite : value.isFinite = true) :
    jsonText (double value) = doubleLayout.render value := if_pos finite

theorem jsonText_notFinite {value : Float} (infinite : ¬ value.isFinite = true) :
    jsonText (double value) = "null".toList := if_neg infinite

/-- The text of a number that JSON has starts with its sign or with a digit. -/
theorem starts_jsonText {scalar : Scalar} {n : Json.Number} (number : scalar.toJson = .number n) :
    ∃ c cs, scalar.jsonText = c :: cs ∧ StartsNumber c := by
  cases scalar with
  | null | bool | string => cases number
  | int value =>
      rw [jsonText, integerText_eq true]
      exact starts_text true (Json.Numeral.isRegular_ofInt _)
  | uint value =>
      rw [jsonText, integerText_eq true]
      exact starts_text true (Json.Numeral.isRegular_ofInt _)
  | double value =>
      by_cases finite : value.isFinite = true
      · obtain ⟨n, regular, -, text, -⟩ := Decimal.render_eq keepsFraction finite
        rw [jsonText_finite finite, text]
        exact starts_text _ regular
      · rw [toJson_notFinite finite] at number
        cases number

theorem spellsKeys_json : SpellsKeys Value.spelling where
  starts scalar := by
    have ofNumber {n : Json.Number} (number : scalar.toJson = .number n) :
        Starts ']' scalar.jsonText := StartsNumber.starts (starts_jsonText number)
    cases scalar with
    | int value | uint value => exact ofNumber rfl
    | null | string value => exact ⟨_, _, rfl, rfl, by decide⟩
    | bool value => cases value <;> exact ⟨_, _, rfl, rfl, by decide⟩
    | double value =>
        by_cases finite : value.isFinite = true
        · exact ofNumber (toJson_finite finite)
        · exact ⟨_, _, jsonText_notFinite finite, rfl, by decide⟩
  key key rest := string_quote readsEscapes_scalar key rest

/-! ## Reading a scalar -/

section

variable [Json.Rounding]

/-- A double is read from its text. -/
def Rereads : Scalar → Prop
  | double x => RereadsDouble doubleLayout x
  | _ => True

instance : DecidablePred Rereads
  | double x => inferInstanceAs (Decidable (RereadsDouble doubleLayout x))
  | null | bool _ | int _ | uint _ | string _ => .isTrue trivial

/-- With a library that takes the nearest double, this is so of every scalar. -/
theorem rereads_of_nearest
    (nearest : ∀ n : Json.Numeral, Json.Rounding.toDouble n = n.nearest) (scalar : Scalar) :
    scalar.Rereads := by
  cases scalar with
  | double x => exact rereadsDouble_of_nearest keepsFraction nearest
  | _ => trivial

/-- The text of a number that JSON has is read as this number. -/
theorem number_jsonText {scalar : Scalar} (rereads : scalar.Rereads) {n : Json.Number}
    (number : scalar.toJson = .number n) {rest : List Char} (ends : EndsNumber rest) :
    Json.Reader.number (scalar.jsonText ++ rest) = .ok (n, rest) := by
  cases scalar with
  | null | bool | string => cases number
  | int value =>
      cases number
      exact number_integerText _ ends
  | uint value =>
      cases number
      exact number_integerText _ ends
  | double value =>
      by_cases finite : value.isFinite = true
      · rw [toJson_finite finite] at number
        cases number
        rw [jsonText_finite finite]
        exact number_render keepsFraction rereads finite ends
      · rw [toJson_notFinite finite] at number
        cases number

theorem value_null (depth : Nat) (rest : List Char) :
    value depth ("null".toList ++ rest) = .ok (.scalar .null, rest) := by
  change value depth ('n' :: 'u' :: 'l' :: 'l' :: rest) = _
  rw [value, skipBlanks_cons rfl]
  rfl

theorem value_bool (bit : Bool) (depth : Nat) (rest : List Char) :
    value depth ((bool bit).jsonText ++ rest) = .ok (.scalar (.bool bit), rest) := by
  cases bit with
  | false =>
      change value depth ('f' :: 'a' :: 'l' :: 's' :: 'e' :: rest) = _
      rw [value, skipBlanks_cons rfl]
      rfl
  | true =>
      change value depth ('t' :: 'r' :: 'u' :: 'e' :: rest) = _
      rw [value, skipBlanks_cons rfl]
      rfl

/-- A scalar is read from its text as what it is in JSON. -/
theorem readsLeaf_json {scalar : Scalar} (rereads : scalar.Rereads) :
    ReadsLeaf Value.spelling toJson scalar := by
  intro depth rest ends
  have ofNumber {n : Json.Number} (number : scalar.toJson = .number n) :
      value depth (scalar.jsonText ++ rest) = .ok (.scalar scalar.toJson, rest) := by
    rw [number, value_numberText depth (starts_jsonText number),
      number_jsonText rereads number ends]
    rfl
  cases scalar with
  | int value | uint value => exact ofNumber rfl
  | null => exact value_null depth rest
  | bool bit => exact value_bool bit depth rest
  | double value =>
      by_cases finite : value.isFinite = true
      · exact ofNumber (toJson_finite finite)
      · have text : Value.spelling.scalar (double value) = "null".toList :=
          jsonText_notFinite finite
        rw [toJson_notFinite finite, text]
        exact value_null depth rest
  | string text =>
      obtain ⟨body, same, read⟩ := string_quote readsEscapes_scalar text rest
      exact (congrArg _ same).trans (value_string read)

end

/-- Read in steps, this text has a neighbour of the double that it was written for. -/
example : ¬ (double 1e-24).Rereads := by decide +kernel

end Scalar

namespace Value

section

variable [Json.Rounding] {value : Value}

theorem read_texts (ordered : value.Ordered) (shallow : value.depth ≤ 127)
    (rereads : value.All Scalar.Rereads) :
    Json.read value.compact = .ok value.toJson ∧ Json.read value.pretty = .ok value.toJson := by
  have leaves : value.All (ReadsLeaf spelling Scalar.toJson) :=
    Doc.All.imp (fun _ => Scalar.readsLeaf_json) rereads
  exact ⟨read_write Scalar.spellsKeys_json blank_compact ordered leaves shallow,
    read_write Scalar.spellsKeys_json blank_indented ordered leaves shallow⟩

/-- With a library that takes the nearest double, nothing has to be known of the doubles. -/
theorem read_texts_of_nearest
    (nearest : ∀ n : Json.Numeral, Json.Rounding.toDouble n = n.nearest)
    (ordered : value.Ordered) (shallow : value.depth ≤ 127) :
    Json.read value.compact = .ok value.toJson ∧ Json.read value.pretty = .ok value.toJson :=
  read_texts ordered shallow (Doc.all_of_forall (Scalar.rereads_of_nearest nearest) value)

end

/-- Both texts of a value are read as the JSON document it stands for, if the text of each double in
it is read as this double.  So what comes back is the value with its scalars settled: every double
that is not finite is null, and every unsigned integer that fits a signed word is signed. -/
theorem text_reads_back [Json.Rounding] (value : Value) (ordered : value.Ordered)
    (shallow : value.depth ≤ 127) (rereads : value.All Scalar.Rereads) :
    Json.read value.compact = .ok value.toJson ∧ Json.read value.pretty = .ok value.toJson ∧
      ofJson value.toJson = value.map Scalar.settled := by
  obtain ⟨compact, pretty⟩ := read_texts ordered shallow rereads
  exact ⟨compact, pretty, ofJson_toJson value⟩

/-- Unsigned integers that fit a signed word and that do not, doubles that are finite and that are
not, an empty array, and a key with a control character and a quote. -/
def mixed : Value :=
  .object
    [("list", .array [uint 7, uint (2 ^ 63), double (0 / 0), double (5 / 2), .array []]),
     ("\x7f\"", string "\n")]

theorem text_reads_back_mixed :
    mixed.Ordered ∧ mixed.depth = 3 ∧ mixed.All Scalar.Rereads ∧
      mixed.compact
        = "\x7b\"list\":[7,9223372036854775808,null,2.5,[]],\"\\u007f\\\"\":\"\\n\"\x7d" ∧
      Json.read mixed.compact = .ok mixed.toJson ∧ Json.read mixed.pretty = .ok mixed.toJson ∧
      ofJson mixed.toJson = .object
        [("list", .array [int 7, uint (2 ^ 63), null, double (5 / 2), .array []]),
         ("\x7f\"", string "\n")] := by
  have ordered : mixed.Ordered := by
    simp only [mixed, Doc.Ordered, Doc.OrderedEntries, Doc.OrderedItems]
    decide
  have depth : mixed.depth = 3 := by decide
  have rereads : mixed.All Scalar.Rereads := by decide +kernel
  obtain ⟨compact, pretty, settled⟩ := text_reads_back mixed ordered (by omega) rereads
  refine ⟨ordered, depth, rereads, by decide +kernel, compact, pretty, settled.trans ?_⟩
  decide +kernel

end Value

end JsonRules
