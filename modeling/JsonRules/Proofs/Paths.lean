/-
# JsonRules.Proofs.Paths -- dotted paths select part by part

All that is left of a path is tried as a key before the path is cut at its next dot.  In a value
without dots in its keys (`Value.Dotless`) no such attempt succeeds while a dot is left, and no index
has a dot either (`Path.select?_eq_none`).  What remains is one selection for each part between the
dots, from left to right, and it ends where a part selects nothing (`Path.follow_concat`).

The empty path is the value itself, and that shows at the end of other paths, too.  Behind a final
dot the path that is left is empty, so it stays at the value that was reached and does not go on to
the field with the empty key.  An empty part in front or in the middle is a key like any other
(`Path.selects_part_by_part`).
-/
import JsonRules.Path
import JsonRules.Proofs.Docs
import JsonRules.Proofs.Entries

namespace JsonRules

set_option autoImplicit false

/-! ## Texts that are no index -/

namespace Text.Numeral

theorem digits?_eq_none {key : List Char} (dot : '.' ∈ key) : digits? key = none := by
  have other : key.all Char.isDigit = false :=
    List.all_eq_false.mpr ⟨'.', dot, by decide⟩
  rw [digits?, other, Bool.and_false]
  rfl

/-- Digits and a sign have no dot, so a text with one is no index. -/
theorem unsigned?_eq_none {key : List Char} (dot : '.' ∈ key) :
    unsigned? key = none := by
  unfold unsigned?
  split
  · exact digits?_eq_none (List.mem_of_ne_of_mem (by decide) dot)
  · exact digits?_eq_none dot

end Text.Numeral

/-! ## Values without dots in their keys -/

/-- The keys of an object; other documents have none. -/
def Doc.keys {σ : Type} : Doc σ → List String
  | .object entries => entries.map Prod.fst
  | .scalar _ | .array _ => []

/-- No key of an object in the value, at any depth, has a dot. -/
def Value.Dotless (value : Value) : Prop :=
  ∀ part ∈ value.parts, ∀ key ∈ part.keys, '.' ∉ key.toList

instance : DecidablePred Value.Dotless := fun value =>
  inferInstanceAs (Decidable (∀ part ∈ value.parts, ∀ key ∈ part.keys, '.' ∉ key.toList))

namespace Path

variable {value found : Value}

theorem parts_of_select? {key : List Char} (selected : select? value key = some found) :
    found.parts ⊆ value.parts := by
  unfold select? at selected
  split at selected
  · rename_i entries
    rw [Doc.parts, Doc.partsEntries_eq]
    refine List.subset_cons_of_subset _ fun part inside => List.mem_flatMap.mpr ?_
    exact ⟨_, Entries.mem_of_get? selected, inside⟩
  · rename_i items
    obtain ⟨index, -, stands⟩ := Option.bind_eq_some_iff.mp selected
    rw [Doc.parts, Doc.partsItems_eq]
    refine List.subset_cons_of_subset _ fun part inside => List.mem_flatMap.mpr ?_
    exact ⟨found, List.mem_of_getElem? stands, inside⟩
  · cases selected

/-- What is selected in a value without dots in its keys has none either. -/
theorem dotless_of_select? (dotless : value.Dotless) {key : List Char}
    (selected : select? value key = some found) : found.Dotless :=
  fun part inside => dotless part (parts_of_select? selected inside)

/-- A text with a dot selects nothing. -/
theorem select?_eq_none (dotless : value.Dotless) {key : List Char} (dot : '.' ∈ key) :
    select? value key = none := by
  unfold select?
  split
  · rename_i entries
    refine Option.eq_none_iff_forall_ne_some.mpr fun found selected => ?_
    have listed : String.ofList key ∈ (Doc.object entries).keys :=
      List.mem_map_of_mem (Entries.mem_of_get? selected)
    have free := dotless _ List.mem_cons_self _ listed
    rw [String.toList_ofList] at free
    exact free dot
  · rw [Text.Numeral.unsigned?_eq_none dot]
    rfl
  · rfl

/-! ## Parts -/

theorem segments_eq_splitOn (path : List Char) : segments path = path.splitOn '.' := by
  induction path with
  | nil => rfl
  | cons c rest ih =>
      rw [List.splitOn_eq_splitOnP, List.splitOnP_cons_eq_if_modifyHead,
        ← List.splitOn_eq_splitOnP, ← ih, segments]
      by_cases dot : c = '.'
      · rw [if_pos dot, if_pos (beq_iff_eq.mpr dot)]
      · rw [if_neg dot, if_neg (mt beq_iff_eq.mp dot)]
        cases parts : segments rest with
        | nil => exact absurd parts (segments_ne_nil rest)
        | cons first others => rfl

/-- A path with one part more has a dot before it. -/
theorem joined_concat {front : List (List Char)} (some : front ≠ []) (last : List Char) :
    joined (front ++ [last]) = joined front ++ '.' :: last := by
  induction front with
  | nil => exact absurd rfl some
  | cons part rest ih =>
      cases rest with
      | nil => rfl
      | cons second others =>
          have behind := ih (List.cons_ne_nil second others)
          simp only [List.cons_append] at behind ⊢
          simp only [joined, behind, List.append_assoc, List.cons_append]

theorem dot_mem_joined (part second : List Char) (rest : List (List Char)) :
    '.' ∈ joined (part :: second :: rest) :=
  List.mem_append_right _ List.mem_cons_self

/-! ## Following a path -/

theorem follow_last (value : Value) (part : List Char) :
    follow value [part] = if part = [] then some value else select? value part := by
  rw [follow, joined]
  by_cases empty : part = []
  · rw [if_pos empty, if_pos empty]
  · rw [if_neg empty, if_neg empty]
    cases select? value part <;> rfl

/-- While a dot is left, the first part selects and the others go on from there. -/
theorem follow_cons (dotless : value.Dotless) (part second : List Char)
    (rest : List (List Char)) :
    follow value (part :: second :: rest)
      = (select? value part).bind (follow · (second :: rest)) := by
  have dot := dot_mem_joined part second rest
  rw [follow, if_neg (List.ne_nil_of_mem dot), select?_eq_none dotless dot]
  rfl

/-- All parts select but the last one, which does not if it is empty. -/
theorem follow_concat (dotless : value.Dotless) (front : List (List Char)) (last : List Char) :
    follow value (front ++ [last])
      = (front.foldlM select? value).bind fun reached =>
        if last = [] then some reached else select? reached last := by
  induction front generalizing value with
  | nil => exact follow_last value last
  | cons part rest ih =>
      obtain ⟨second, others, same⟩ : ∃ second others, rest ++ [last] = second :: others :=
        List.exists_cons_of_ne_nil (List.append_ne_nil_of_right_ne_nil _ (List.cons_ne_nil _ _))
      rw [List.cons_append, same, follow_cons dotless, ← same, List.foldlM_cons]
      cases selected : select? value part with
      | none => rfl
      | some next => exact ih (dotless_of_select? dotless selected)

/-- The last part of a path is empty only behind a final dot. -/
theorem last_ne_nil {path last : List Char} {front : List (List Char)} (nonempty : path ≠ [])
    (noDot : path.getLast? ≠ some '.') (parts : segments path = front ++ [last]) : last ≠ [] := by
  rintro rfl
  have whole := joined_segments path
  rw [parts] at whole
  by_cases alone : front = []
  · subst alone
    exact nonempty whole.symm
  · rw [joined_concat alone] at whole
    exact noDot (by rw [← whole, List.getLast?_concat])

/-- **Paths select part by part.**  In a value without dots in its keys a path that is not empty and
does not end with a dot names what its parts select, one after the other and from left to right, if
each of them selects something; empty parts select, too.  A final dot adds nothing to the path. -/
theorem selects_part_by_part (dotless : value.Dotless) :
    (∀ path : String, path ≠ "" → path.toList.getLast? ≠ some '.' →
      resolve? value path = (path.toList.splitOn '.').foldlM select? value) ∧
    ∀ front : String,
      resolve? value (front ++ ".") = (front.toList.splitOn '.').foldlM select? value := by
  constructor
  · intro path nonempty noDot
    have letters : path.toList ≠ [] := mt String.toList_eq_nil_iff.mp nonempty
    obtain ⟨front, last, parts⟩ : ∃ front last, segments path.toList = front ++ [last] :=
      ⟨_, _, (List.dropLast_append_getLast (segments_ne_nil _)).symm⟩
    rw [resolve?, ← segments_eq_splitOn, parts, follow_concat dotless, List.foldlM_append]
    refine congrArg _ (funext fun reached => ?_)
    rw [if_neg (last_ne_nil letters noDot parts), List.foldlM_cons]
    exact (bind_pure _).symm
  · intro front
    have parts : (front ++ ".").toList.splitOn '.' = front.toList.splitOn '.' ++ [[]] := by
      rw [String.toList_append]
      exact List.splitOnP_append_cons front.toList [] rfl
    rw [resolve?, segments_eq_splitOn, parts, follow_concat dotless]
    simp only [if_true]
    exact Option.bind_fun_some _

/-- A path through fields with the empty key and into an array, without and with a final dot. -/
theorem selects_part_by_part_gaps :
    let value : Value :=
      .object [("", .object [("a", .object [("", .array [Value.null, Value.bool true])])])]
    value.Dotless ∧ resolve? value ".a..1" = some (Value.bool true) ∧
      resolve? value ".a.." = some (.array [Value.null, Value.bool true]) := by
  intro value
  have dotless : value.Dotless := by decide
  obtain ⟨noDot, finalDot⟩ := selects_part_by_part dotless
  exact ⟨dotless, (noDot ".a..1" (by decide) (by decide)).trans (by decide),
    (finalDot ".a.").trans (by decide)⟩

/-- Behind a final dot there is an empty part, and the value that was reached has a field with the
empty key, which the part would select. -/
theorem final_dot_selects_nothing :
    let value : Value := .object [("a", .object [("", Value.bool true)])]
    value.Dotless ∧ ("a.".toList.splitOn '.').foldlM select? value = some (Value.bool true) ∧
      resolve? value "a." = some (.object [("", Value.bool true)]) := by
  decide

end Path

end JsonRules
