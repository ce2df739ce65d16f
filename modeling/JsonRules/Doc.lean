/-
# JsonRules.Doc -- documents: scalars, arrays and objects

JSON texts and the values of a rule have one shape and differ only in their
scalars, so the shape is defined once, with the kind of scalar as a parameter.

The entries of an object stand in strictly increasing order of their keys
(`Doc.Ordered`).  An object has then one representation, equality of documents is
equality of objects, and a printer that follows the list writes its keys sorted.
`Entries.insert` keeps the order and lets a later entry replace an earlier one of
the same key (`Entries.get?_insert`); `Doc.map` keeps it because it never touches
a key (`Doc.ordered_map`).
-/

namespace JsonRules

set_option autoImplicit false

/-! ## Entry lists -/

/-- The entries of an object: keys with what stands under them. -/
abbrev Entries (α : Type) := List (String × α)

namespace Entries

variable {α : Type}

/-- Puts `value` under `key`, at the place the order of the keys gives it. -/
def insert (key : String) (value : α) : Entries α → Entries α
  | [] => [(key, value)]
  | (k, v) :: rest =>
      if key < k then (key, value) :: (k, v) :: rest
      else if key = k then (key, value) :: rest
      else (k, v) :: insert key value rest

/-- Sorts entries by key; of two entries with one key the later stays. -/
def ofList (entries : List (String × α)) : Entries α :=
  entries.foldl (fun sorted entry => sorted.insert entry.1 entry.2) []

/-- What stands under `key`. -/
def get? (key : String) : Entries α → Option α
  | [] => none
  | (k, v) :: rest => if key = k then some v else get? key rest

/-- Looking up after an insertion finds the new value under its key and what was
there before under every other. -/
theorem get?_insert (key : String) (value : α) (entries : Entries α) (other : String) :
    get? other (insert key value entries)
      = if other = key then some value else get? other entries := by
  induction entries with
  | nil => simp [insert, get?]
  | cons entry rest ih =>
      obtain ⟨k, v⟩ := entry
      simp only [insert]
      split
      · simp [get?]
      · split
        · rename_i same
          subst same
          by_cases here : other = key <;> simp [get?, here]
        · rename_i different
          by_cases here : other = k
          · simp [get?, here, Ne.symm different]
          · simp [get?, here, ih]

end Entries

/-! ## Documents -/

/-- A document over scalars of type `σ`. -/
inductive Doc (σ : Type) where
  | scalar (value : σ)
  | array (items : List (Doc σ))
  | object (entries : List (String × Doc σ))

namespace Doc

variable {σ τ υ : Type}

instance [Inhabited σ] : Inhabited (Doc σ) := ⟨.scalar default⟩

mutual

/-- Changes every scalar and nothing else. -/
def map (f : σ → τ) : Doc σ → Doc τ
  | .scalar value => .scalar (f value)
  | .array items => .array (mapItems f items)
  | .object entries => .object (mapEntries f entries)

def mapItems (f : σ → τ) : List (Doc σ) → List (Doc τ)
  | [] => []
  | item :: rest => item.map f :: mapItems f rest

def mapEntries (f : σ → τ) : List (String × Doc σ) → List (String × Doc τ)
  | [] => []
  | (key, item) :: rest => (key, item.map f) :: mapEntries f rest

end

mutual

/-- How many arrays and objects enclose the innermost place of a document. -/
def depth : Doc σ → Nat
  | .scalar _ => 0
  | .array items => 1 + depthItems items
  | .object entries => 1 + depthEntries entries

def depthItems : List (Doc σ) → Nat
  | [] => 0
  | item :: rest => max item.depth (depthItems rest)

def depthEntries : List (String × Doc σ) → Nat
  | [] => 0
  | (_, item) :: rest => max item.depth (depthEntries rest)

end

mutual

/-- Every scalar of the document, at any depth, satisfies `p`. -/
def All (p : σ → Prop) : Doc σ → Prop
  | .scalar value => p value
  | .array items => AllItems p items
  | .object entries => AllEntries p entries

def AllItems (p : σ → Prop) : List (Doc σ) → Prop
  | [] => True
  | item :: rest => item.All p ∧ AllItems p rest

def AllEntries (p : σ → Prop) : List (String × Doc σ) → Prop
  | [] => True
  | (_, item) :: rest => item.All p ∧ AllEntries p rest

end

mutual

/-- Every object of the document lists its keys in strictly increasing order. -/
def Ordered : Doc σ → Prop
  | .scalar _ => True
  | .array items => OrderedItems items
  | .object entries => entries.Pairwise (fun a b => a.1 < b.1) ∧ OrderedEntries entries

def OrderedItems : List (Doc σ) → Prop
  | [] => True
  | item :: rest => item.Ordered ∧ OrderedItems rest

def OrderedEntries : List (String × Doc σ) → Prop
  | [] => True
  | (_, item) :: rest => item.Ordered ∧ OrderedEntries rest

end

/-! ## Equality is decidable -/

mutual

def decEq [DecidableEq σ] : (a b : Doc σ) → Decidable (a = b)
  | .scalar a, .scalar b => decidable_of_iff (a = b) (by simp)
  | .array a, .array b =>
      have := decEqItems a b
      decidable_of_iff (a = b) (by simp)
  | .object a, .object b =>
      have := decEqEntries a b
      decidable_of_iff (a = b) (by simp)
  | .scalar _, .array _ | .scalar _, .object _ | .array _, .scalar _
  | .array _, .object _ | .object _, .scalar _ | .object _, .array _ => isFalse (by simp)

def decEqItems [DecidableEq σ] : (a b : List (Doc σ)) → Decidable (a = b)
  | [], [] => isTrue rfl
  | x :: xs, y :: ys =>
      have := decEq x y
      have := decEqItems xs ys
      decidable_of_iff (x = y ∧ xs = ys) (by simp)
  | [], _ :: _ | _ :: _, [] => isFalse (by simp)

def decEqEntries [DecidableEq σ] : (a b : List (String × Doc σ)) → Decidable (a = b)
  | [], [] => isTrue rfl
  | (k, x) :: xs, (l, y) :: ys =>
      have := decEq x y
      have := decEqEntries xs ys
      decidable_of_iff (k = l ∧ x = y ∧ xs = ys) (by simp [and_assoc])
  | [], _ :: _ | _ :: _, [] => isFalse (by simp)

end

instance [DecidableEq σ] : DecidableEq (Doc σ) := decEq

/-! ## Mapping follows the lists -/

theorem mapItems_eq (f : σ → τ) (items : List (Doc σ)) :
    mapItems f items = items.map (·.map f) := by
  induction items with
  | nil => rfl
  | cons item rest ih => simp [mapItems, ih]

theorem mapEntries_eq (f : σ → τ) (entries : List (String × Doc σ)) :
    mapEntries f entries = entries.map (fun entry => (entry.1, entry.2.map f)) := by
  induction entries with
  | nil => rfl
  | cons entry rest ih => simp [mapEntries, ih]

mutual

/-- Two changes of the scalars are one. -/
theorem map_map (f : σ → τ) (g : τ → υ) :
    (doc : Doc σ) → (doc.map f).map g = doc.map fun leaf => g (f leaf)
  | .scalar _ => rfl
  | .array items => by simp only [map, mapItems_mapItems f g items]
  | .object entries => by simp only [map, mapEntries_mapEntries f g entries]

theorem mapItems_mapItems (f : σ → τ) (g : τ → υ) : (items : List (Doc σ)) →
    mapItems g (mapItems f items) = mapItems (fun leaf => g (f leaf)) items
  | [] => rfl
  | item :: rest => by simp only [mapItems, map_map f g item, mapItems_mapItems f g rest]

theorem mapEntries_mapEntries (f : σ → τ) (g : τ → υ) : (entries : List (String × Doc σ)) →
    mapEntries g (mapEntries f entries) = mapEntries (fun leaf => g (f leaf)) entries
  | [] => rfl
  | (key, item) :: rest => by
      simp only [mapEntries, map_map f g item, mapEntries_mapEntries f g rest]

end

theorem orderedItems_iff (items : List (Doc σ)) :
    OrderedItems items ↔ ∀ item ∈ items, item.Ordered := by
  induction items with
  | nil => simp [OrderedItems]
  | cons item rest ih => simp [OrderedItems, ih]

theorem orderedEntries_iff (entries : List (String × Doc σ)) :
    OrderedEntries entries ↔ ∀ entry ∈ entries, entry.2.Ordered := by
  induction entries with
  | nil => simp [OrderedEntries]
  | cons entry rest ih => simp [OrderedEntries, ih]

mutual

/-- A change of the scalars leaves the keys, and so their order. -/
theorem ordered_map (f : σ → τ) : (doc : Doc σ) → (doc.map f).Ordered ↔ doc.Ordered
  | .scalar _ => Iff.rfl
  | .array items => orderedItems_map f items
  | .object entries => by
      rw [map, Ordered, Ordered, orderedEntries_map f entries, mapEntries_eq, List.pairwise_map]

theorem orderedItems_map (f : σ → τ) :
    (items : List (Doc σ)) → OrderedItems (mapItems f items) ↔ OrderedItems items
  | [] => Iff.rfl
  | item :: rest => by
      simp [mapItems, OrderedItems, ordered_map f item, orderedItems_map f rest]

theorem orderedEntries_map (f : σ → τ) :
    (entries : List (String × Doc σ)) →
      OrderedEntries (mapEntries f entries) ↔ OrderedEntries entries
  | [] => Iff.rfl
  | (_, item) :: rest => by
      simp [mapEntries, OrderedEntries, ordered_map f item, orderedEntries_map f rest]

end

end Doc

end JsonRules
