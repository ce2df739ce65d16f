/-
# JsonRules.Proofs.Conversion -- documents converted step by step

A machine holds the numbers of JSON in three ways (`Json.Number.Held`), and those of values in three
ways, but not in the same three: in JSON it is the negative integers that are held apart, and among
values those that no signed word holds.  On the way to a value a number is asked in turn what it can
be (`Scalar.ofHeld`); on the way back the sign of a signed word decides, and a double that is not
finite is left out.

The entries of an object are held in a table that has no order of its own.  They leave it in any
order, each with its converted value, and are collected one by one (`Doc.Rebuilds`).

Neither shows in what comes out.  Step by step, a document that lists its keys in order is taken for
the one value that it stands for, and a value is given as the one document that it is written as
(`Value.rebuilds_ofJson_iff`, `Value.rebuilds_toJson_iff`).
-/
import JsonRules.Proofs.Docs
import JsonRules.Proofs.Entries
import JsonRules.Proofs.Words
import Mathlib.Data.List.Forall2

namespace JsonRules

set_option autoImplicit false

-- Powers are the built-in ones, also where Mathlib is imported.
attribute [local instance (high)] instPowNat

/-! ## Numbers -/

namespace Json.Number

/-- How a machine holds a number: an integer in an unsigned word unless it is negative. -/
inductive Held where
  | natural (word : UInt64)
  | negative (word : Int64) (below : word.toInt < 0)
  | double (value : Float) (finite : value.isFinite = true)

/-- A negative number that is not too small for a signed word is one. -/
theorem toInt_ofInt_of_neg {value : Int} (least : -2 ^ (63 : Nat) ≤ value) (below : value < 0) :
    (Int64.ofInt value).toInt = value :=
  Int64.toInt_ofInt_of_le least (by omega)

/-- How a number is held. -/
def held : Json.Number → Held
  | .integer value inRange =>
      if below : value < 0 then
        .negative (Int64.ofInt value)
          (Int.lt_of_le_of_lt (Int.le_of_eq (toInt_ofInt_of_neg inRange.1 below)) below)
      else .natural (UInt64.ofNat value.toNat)
  | .double value finite => .double value finite

namespace Held

/-- The number that is held. -/
def number : Held → Json.Number
  | natural word => .integer word.toNat (Word.inRange_toNat word)
  | negative word _ => .integer word.toInt (Word.inRange_toInt word)
  | double value finite => .double value finite

/-- The signed word that the number is. -/
def signed? : Held → Option Int64
  | natural word => Word.int? word.toNat
  | negative word _ => some word
  | double _ _ => none

/-- The unsigned word that the number is. -/
def unsigned? : Held → Option UInt64
  | natural word => some word
  | negative _ _ | double _ _ => none

/-- The double nearest to the number; every number has one. -/
def double? : Held → Option Float
  | natural word => some (Coercion.ofUInt word)
  | negative word _ => some (Coercion.ofInt word)
  | double value _ => some value

def ofSigned (word : Int64) : Held :=
  if below : word.toInt < 0 then negative word below else natural word.toUInt64

/-- A double is held if it is finite. -/
def ofDouble? (value : Float) : Option Held :=
  if finite : value.isFinite = true then some (double value finite) else none

theorem number_ofSigned (word : Int64) :
    (ofSigned word).number = .integer word.toInt (Word.inRange_toInt word) := by
  unfold ofSigned
  split
  · rfl
  · rename_i notBelow
    simp only [number, Word.toNat_toUInt64 (Int.not_lt.mp notBelow)]

end Held

/-- Every number is held. -/
theorem number_held (n : Json.Number) : n.held.number = n := by
  cases n with
  | double value finite => rfl
  | integer value inRange =>
      by_cases below : value < 0
      · simp only [held, dif_pos below, Held.number, toInt_ofInt_of_neg inRange.1 below]
      · have fits : Word.uint? value = some (UInt64.ofNat value.toNat) :=
          if_pos ⟨Int.not_lt.mp below, inRange.2⟩
        simp only [held, dif_neg below, Held.number, Word.uint?_eq_some_iff.mp fits]

end Json.Number

/-! ## Scalars -/

namespace Scalar

open Json.Number (Held)

/-- A number becomes a signed word if it can, else an unsigned one if it can, else a double. -/
def ofHeld (held : Held) : Scalar :=
  match held.signed? with
  | some word => int word
  | none =>
      match held.unsigned? with
      | some word => uint word
      | none => double (held.double?.getD (0 / 0))

/-- A scalar of a JSON document as a scalar of a value, by way of how its number is held. -/
def takeHeld : Json.Scalar → Scalar
  | .null => null
  | .bool value => bool value
  | .number value => ofHeld value.held
  | .string value => string value

/-- A scalar of a value as a scalar of a JSON document, by way of how its number will be held. -/
def giveHeld : Scalar → Json.Scalar
  | null => .null
  | bool value => .bool value
  | int value => .number (Held.ofSigned value).number
  | uint value => .number (Held.natural value).number
  | double value => ((Held.ofDouble? value).map fun held => .number held.number).getD .null
  | string value => .string value

/-- Asked in turn, a number becomes what it is read as. -/
theorem ofHeld_eq (held : Held) : ofHeld held = ofNumber held.number := by
  cases held with
  | natural word =>
      have written : ofNumber (Held.natural word).number = ofUInt word := ofJson_toJson (uint word)
      rw [written, ofUInt, ofHeld, Held.signed?]
      cases Word.int? word.toNat <;> rfl
  | negative word below => exact (ofJson_toJson (int word)).symm
  | double value finite => rfl

theorem takeHeld_eq : takeHeld = ofJson := by
  funext scalar
  cases scalar with
  | null | bool | string => rfl
  | number value => rw [takeHeld, ofHeld_eq, Json.Number.number_held, ofJson]

theorem giveHeld_eq : giveHeld = toJson := by
  funext scalar
  cases scalar with
  | null | bool | string | uint => rfl
  | int value => rw [giveHeld, Held.number_ofSigned, toJson]
  | double value =>
      rw [giveHeld, Held.ofDouble?]
      by_cases finite : value.isFinite = true
      · rw [dif_pos finite, toJson_finite finite]
        rfl
      · rw [dif_neg finite, toJson_notFinite finite]
        rfl

end Scalar

/-! ## Documents -/

/-- If every element is related to one image only, so is the list. -/
theorem forall₂_iff_eq_map {α β : Type} {R : α → β → Prop} {g : α → β} {as : List α}
    (each : ∀ a ∈ as, ∀ b, R a b ↔ b = g a) (bs : List β) :
    List.Forall₂ R as bs ↔ bs = as.map g := by
  induction as generalizing bs with
  | nil => exact List.forall₂_nil_left_iff
  | cons a as ih =>
      obtain ⟨here, later⟩ := List.forall_mem_cons.mp each
      simp [List.forall₂_cons_left_iff, here, ih later]

namespace Doc

variable {σ τ : Type}

mutual

/-- The image has every scalar changed.  The entries of an object are handed over in any order, and
are collected one by one. -/
inductive Rebuilds (f : σ → τ) : Doc σ → Doc τ → Prop where
  | scalar (value : σ) : Rebuilds f (.scalar value) (.scalar (f value))
  | array {items : List (Doc σ)} {images : List (Doc τ)}
      (each : List.Forall₂ (Rebuilds f) items images) : Rebuilds f (.array items) (.array images)
  | object {entries : List (String × Doc σ)} {images handed : List (String × Doc τ)}
      (each : List.Forall₂ (RebuildsEntry f) entries images) (order : handed.Perm images) :
      Rebuilds f (.object entries) (.object (Entries.ofList handed))

/-- The entry keeps its key. -/
inductive RebuildsEntry (f : σ → τ) : String × Doc σ → String × Doc τ → Prop where
  | value (key : String) {item : Doc σ} {image : Doc τ} (rebuilds : Rebuilds f item image) :
      RebuildsEntry f (key, item) (key, image)

end

theorem rebuildsEntry_iff {f : σ → τ} {entry : String × Doc σ} {g : Doc σ → Doc τ}
    (rebuilds : ∀ image, Rebuilds f entry.2 image ↔ image = g entry.2)
    (image : String × Doc τ) :
    RebuildsEntry f entry image ↔ image = (entry.1, g entry.2) := by
  constructor
  · rintro ⟨key, rebuilt⟩
    exact congrArg (key, ·) ((rebuilds _).mp rebuilt)
  · rintro rfl
    exact .value entry.1 ((rebuilds _).mpr rfl)

/-- A document with its keys in order is rebuilt in one way only: whatever order the entries of an
object come in, sorting them finds the order that the keys had. -/
theorem rebuilds_iff (f : σ → τ) (doc : Doc σ) (ordered : doc.Ordered) (image : Doc τ) :
    doc.Rebuilds f image ↔ image = doc.map f := by
  induction doc using induct generalizing image with
  | scalar value =>
      constructor
      · intro rebuilds
        cases rebuilds with
        | scalar => rfl
      · rintro rfl
        exact .scalar value
  | array items ih =>
      rw [Ordered, orderedItems_iff] at ordered
      have each := forall₂_iff_eq_map fun item mem => ih item mem (ordered item mem)
      rw [map, mapItems_eq]
      constructor
      · intro rebuilds
        cases rebuilds with
        | array rebuilt => rw [(each _).mp rebuilt]
      · rintro rfl
        exact .array ((each _).mpr rfl)
  | object entries ih =>
      obtain ⟨keys, ordered⟩ := ordered
      rw [orderedEntries_iff] at ordered
      have each := forall₂_iff_eq_map fun entry mem =>
        rebuildsEntry_iff (g := (·.map f)) (ih entry mem (ordered entry mem))
      have sorted : (entries.map fun entry => (entry.1, entry.2.map f)).Pairwise
          fun a b => a.1 < b.1 := List.pairwise_map.mpr keys
      rw [map, mapEntries_eq]
      constructor
      · intro rebuilds
        cases rebuilds with
        | object rebuilt order =>
            rw [(each _).mp rebuilt] at order
            rw [Entries.ofList_of_perm order sorted]
      · rintro rfl
        have rebuilt := Rebuilds.object ((each _).mpr rfl) (.refl _)
        rwa [Entries.ofList_of_ordered sorted] at rebuilt

end Doc

namespace Value

/-- A document is written as it was read. -/
theorem toJson_ofJson (json : Json) : (ofJson json).toJson = json := by
  have each : (fun leaf => (Scalar.ofJson leaf).toJson) = id := funext Scalar.toJson_ofJson
  rw [toJson, ofJson, Doc.map_map, each, Doc.map_id]

theorem rebuilds_ofJson_iff {json : Json} (ordered : json.Ordered) (value : Value) :
    json.Rebuilds Scalar.takeHeld value ↔ value = ofJson json := by
  rw [Doc.rebuilds_iff _ json ordered, Scalar.takeHeld_eq, ofJson]

theorem rebuilds_toJson_iff {value : Value} (ordered : value.Ordered) (json : Json) :
    value.Rebuilds Scalar.giveHeld json ↔ json = value.toJson := by
  rw [Doc.rebuilds_iff _ value ordered, Scalar.giveHeld_eq, toJson]

end Value

end JsonRules
