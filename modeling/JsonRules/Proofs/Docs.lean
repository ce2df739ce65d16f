/-
# JsonRules.Proofs.Docs -- documents by induction

What is proved of documents goes by induction over what arrays and objects hold (`Doc.induct`).
This module has the notions that are defined by recursion over documents in the form in which such
a proof uses them: what holds of all scalars, what stands deepest, and which documents are parts of
a document.
-/
import JsonRules.Doc
import Mathlib.Data.List.Basic

namespace JsonRules.Doc

set_option autoImplicit false

variable {σ τ : Type}

/-- Induction over a document: arrays and objects come with the claim for what they hold. -/
@[elab_as_elim]
theorem induct {motive : Doc σ → Prop} (scalar : ∀ value, motive (.scalar value))
    (array : ∀ items, (∀ item ∈ items, motive item) → motive (.array items))
    (object : ∀ entries, (∀ entry ∈ entries, motive entry.2) → motive (.object entries))
    (doc : Doc σ) : motive doc := by
  refine @Doc.rec σ motive (fun items => ∀ item ∈ items, motive item)
    (fun entries => ∀ entry ∈ entries, motive entry.2) (fun entry => motive entry.2)
    scalar array object ?_ ?_ ?_ ?_ ?_ doc
  · exact List.forall_mem_nil _
  · exact fun _ _ first rest => List.forall_mem_cons.mpr ⟨first, rest⟩
  · exact List.forall_mem_nil _
  · exact fun _ _ first rest => List.forall_mem_cons.mpr ⟨first, rest⟩
  · exact fun _ _ item => item

/-- A change that leaves every scalar leaves the document. -/
theorem map_id (doc : Doc σ) : doc.map id = doc := by
  induction doc using induct with
  | scalar value => rfl
  | array items ih => rw [map, mapItems_eq, List.map_congr_left ih, List.map_id']
  | object entries ih =>
      have each : ∀ entry ∈ entries, (entry.1, entry.2.map id) = entry :=
        fun entry member => by rw [ih entry member]
      rw [map, mapEntries_eq, List.map_congr_left each, List.map_id']

/-! ## All scalars -/

section All

variable {p : σ → Prop}

theorem allItems_iff (items : List (Doc σ)) : AllItems p items ↔ ∀ item ∈ items, item.All p := by
  induction items with
  | nil => simp [AllItems]
  | cons item rest ih => simp [AllItems, ih]

theorem allEntries_iff (entries : List (String × Doc σ)) :
    AllEntries p entries ↔ ∀ entry ∈ entries, entry.2.All p := by
  induction entries with
  | nil => simp [AllEntries]
  | cons entry rest ih => simp [AllEntries, ih]

theorem All.imp {q : σ → Prop} (each : ∀ leaf, p leaf → q leaf) {doc : Doc σ} (all : doc.All p) :
    doc.All q := by
  induction doc using Doc.induct with
  | scalar leaf => exact each leaf all
  | array items ih =>
      have below := (allItems_iff items).mp all
      exact (allItems_iff items).mpr fun item member => ih item member (below item member)
  | object entries ih =>
      have below := (allEntries_iff entries).mp all
      exact (allEntries_iff entries).mpr fun entry member => ih entry member (below entry member)

/-- What holds of every scalar holds of those of a document. -/
theorem all_of_forall (each : ∀ leaf, p leaf) (doc : Doc σ) : doc.All p := by
  induction doc using induct with
  | scalar leaf => exact each leaf
  | array items ih => exact (allItems_iff items).mpr ih
  | object entries ih => exact (allEntries_iff entries).mpr ih

/-- What holds of every scalar that may come out holds of all that do. -/
theorem all_map {f : τ → σ} (each : ∀ leaf, p (f leaf)) (doc : Doc τ) : (doc.map f).All p := by
  induction doc using induct with
  | scalar leaf => exact each leaf
  | array items ih =>
      rw [map, All, mapItems_eq, allItems_iff, List.forall_mem_map]
      exact ih
  | object entries ih =>
      rw [map, All, mapEntries_eq, allEntries_iff, List.forall_mem_map]
      exact ih

variable [DecidablePred p]

mutual

def decideAll : (doc : Doc σ) → Decidable (doc.All p)
  | .scalar leaf => inferInstanceAs (Decidable (p leaf))
  | .array items => decideAllItems items
  | .object entries => decideAllEntries entries

def decideAllItems : (items : List (Doc σ)) → Decidable (AllItems p items)
  | [] => isTrue trivial
  | item :: rest =>
      have := decideAll item
      have := decideAllItems rest
      inferInstanceAs (Decidable (item.All p ∧ AllItems p rest))

def decideAllEntries : (entries : List (String × Doc σ)) → Decidable (AllEntries p entries)
  | [] => isTrue trivial
  | (_, item) :: rest =>
      have := decideAll item
      have := decideAllEntries rest
      inferInstanceAs (Decidable (item.All p ∧ AllEntries p rest))

end

instance : DecidablePred (All p) := decideAll

end All

/-! ## Depth -/

theorem lt_depthItems_iff {depth : Nat} {items : List (Doc σ)} :
    depth < depthItems items ↔ ∃ item ∈ items, depth < item.depth := by
  induction items with
  | nil => simp [depthItems]
  | cons item rest ih =>
      rw [depthItems, List.exists_mem_cons_iff, ← ih]
      omega

theorem depthItems_le_iff {depth : Nat} {items : List (Doc σ)} :
    depthItems items ≤ depth ↔ ∀ item ∈ items, item.depth ≤ depth := by
  simpa using not_congr (@lt_depthItems_iff σ depth items)

theorem lt_depthEntries_iff {depth : Nat} {entries : List (String × Doc σ)} :
    depth < depthEntries entries ↔ ∃ entry ∈ entries, depth < entry.2.depth := by
  induction entries with
  | nil => simp [depthEntries]
  | cons entry rest ih =>
      rw [depthEntries, List.exists_mem_cons_iff, ← ih]
      omega

/-! ## Parts -/

mutual

/-- The documents in a document, at any depth, and the document itself. -/
def parts : Doc σ → List (Doc σ)
  | .scalar value => [.scalar value]
  | .array items => .array items :: partsItems items
  | .object entries => .object entries :: partsEntries entries

def partsItems : List (Doc σ) → List (Doc σ)
  | [] => []
  | item :: rest => item.parts ++ partsItems rest

def partsEntries : List (String × Doc σ) → List (Doc σ)
  | [] => []
  | (_, item) :: rest => item.parts ++ partsEntries rest

end

theorem partsItems_eq (items : List (Doc σ)) : partsItems items = items.flatMap parts := by
  induction items with
  | nil => rfl
  | cons item rest ih => rw [partsItems, ih, List.flatMap_cons]

theorem partsEntries_eq (entries : List (String × Doc σ)) :
    partsEntries entries = entries.flatMap fun entry => entry.2.parts := by
  induction entries with
  | nil => rfl
  | cons entry rest ih => rw [partsEntries, ih, List.flatMap_cons]

end JsonRules.Doc
