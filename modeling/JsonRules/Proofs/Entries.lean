/-
# JsonRules.Proofs.Entries -- finding and sorting the entries of an object

`Entries.ofList` puts one entry after the other into its place, so what is said about all of them
follows the list from its end, where the next entry comes in (`ofList_concat`).  Entries with
different keys are all there afterwards (`get?_ofList`), and in whatever order they come in, they
come out in the order of their keys (`ofList_of_perm`).  So entries that stood in order stay as they
are (`ofList_of_ordered`).
-/
import JsonRules.Doc
import Mathlib.Data.List.Induction
import Mathlib.Data.List.Perm.Basic

namespace JsonRules.Entries

set_option autoImplicit false

variable {α : Type}

/-- An entry that is found is one of the entries. -/
theorem mem_of_get? {key : String} {entries : Entries α} {value : α}
    (found : get? key entries = some value) : (key, value) ∈ entries := by
  induction entries with
  | nil => cases found
  | cons entry rest ih =>
      rw [get?] at found
      split at found
      · rename_i same
        cases found
        exact same ▸ List.mem_cons_self
      · exact List.mem_cons_of_mem _ (ih found)

/-- The last entry of a key stays. -/
theorem ofList_concat (entries : List (String × α)) (entry : String × α) :
    ofList (entries ++ [entry]) = insert entry.1 entry.2 (ofList entries) := by
  simp [ofList]

/-- Sorting entries with different keys loses none of them. -/
theorem get?_ofList {entries : List (String × α)} (nodup : (entries.map Prod.fst).Nodup)
    {key : String} {value : α} (member : (key, value) ∈ entries) :
    get? key (ofList entries) = some value := by
  induction entries using List.reverseRecOn with
  | nil => cases member
  | append_singleton entries entry ih =>
      rw [ofList_concat, get?_insert]
      rw [List.map_append, List.map_singleton, List.nodup_append] at nodup
      rcases List.mem_append.mp member with before | last
      · have other : key ≠ entry.1 :=
          nodup.2.2 key (List.mem_map_of_mem before) entry.1 (List.mem_singleton.mpr rfl)
        rw [if_neg other]
        exact ih nodup.1 before
      · obtain rfl := List.mem_singleton.mp last
        rw [if_pos rfl]

/-! ## Sorting -/

/-- An entry with a new key comes to the others. -/
theorem perm_insert {entries : Entries α} {key : String} (value : α)
    (fresh : key ∉ entries.map Prod.fst) :
    (insert key value entries).Perm ((key, value) :: entries) := by
  induction entries with
  | nil => exact .refl _
  | cons entry rest ih =>
      obtain ⟨different, behind⟩ := List.ne_and_not_mem_of_not_mem_cons fresh
      by_cases less : key < entry.1
      · rw [insert, if_pos less]
      · rw [insert, if_neg less, if_neg different]
        exact ((ih behind).cons entry).trans (.swap ..)

theorem pairwise_insert {entries : Entries α} {key : String} (value : α)
    (fresh : key ∉ entries.map Prod.fst) (ordered : entries.Pairwise fun a b => a.1 < b.1) :
    (insert key value entries).Pairwise fun a b => a.1 < b.1 := by
  induction entries with
  | nil => exact List.pairwise_singleton ..
  | cons entry rest ih =>
      obtain ⟨different, behind⟩ := List.ne_and_not_mem_of_not_mem_cons fresh
      obtain ⟨first, later⟩ := List.pairwise_cons.mp ordered
      by_cases less : key < entry.1
      · have greater : ∀ other ∈ entry :: rest, key < other.1 :=
          List.forall_mem_cons.mpr ⟨less, fun other mem => String.lt_trans less (first other mem)⟩
        rw [insert, if_pos less]
        exact List.pairwise_cons.mpr ⟨greater, ordered⟩
      · have greater : entry.1 < key :=
          ((Std.lt_trichotomy key entry.1).resolve_left less).resolve_left different
        rw [insert, if_neg less, if_neg different]
        refine List.pairwise_cons.mpr ⟨fun other mem => ?_, ih behind later⟩
        rcases List.mem_cons.mp ((perm_insert value behind).mem_iff.mp mem) with rfl | mem
        · exact greater
        · exact first other mem

/-- Entries with different keys are sorted, and none is lost or comes twice. -/
theorem sorted_ofList {entries : List (String × α)} (nodup : (entries.map Prod.fst).Nodup) :
    (ofList entries).Perm entries ∧ (ofList entries).Pairwise fun a b => a.1 < b.1 := by
  induction entries using List.reverseRecOn with
  | nil => exact ⟨.refl _, .nil⟩
  | append_singleton entries entry ih =>
      rw [List.map_append, List.map_singleton, List.nodup_append] at nodup
      obtain ⟨perm, ordered⟩ := ih nodup.1
      have fresh : entry.1 ∉ (ofList entries).map Prod.fst := fun mem =>
        nodup.2.2 entry.1 ((perm.map Prod.fst).mem_iff.mp mem) entry.1 List.mem_cons_self rfl
      rw [ofList_concat]
      refine ⟨?_, pairwise_insert entry.2 fresh ordered⟩
      exact (perm_insert entry.2 fresh).trans
        ((perm.cons entry).trans (List.perm_append_singleton entry entries).symm)

/-- Sorting finds the order of the entries again, whatever order they come in. -/
theorem ofList_of_perm {entries sorted : List (String × α)} (perm : entries.Perm sorted)
    (ordered : sorted.Pairwise fun a b => a.1 < b.1) : ofList entries = sorted := by
  have different : (sorted.map Prod.fst).Nodup := by
    refine List.pairwise_map.mpr (ordered.imp fun less same => ?_)
    exact String.lt_irrefl _ (same ▸ less)
  obtain ⟨all, inOrder⟩ := sorted_ofList ((perm.map Prod.fst).nodup_iff.mpr different)
  refine List.Perm.eq_of_pairwise ?_ inOrder ordered (all.trans perm)
  exact fun a b _ _ less greater => absurd greater (String.lt_asymm less)

/-- Entries in order stay as they are. -/
theorem ofList_of_ordered {entries : List (String × α)}
    (ordered : entries.Pairwise fun a b => a.1 < b.1) : ofList entries = entries :=
  ofList_of_perm (.refl _) ordered

end JsonRules.Entries
