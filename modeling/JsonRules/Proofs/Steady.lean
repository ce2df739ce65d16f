/-
# JsonRules.Proofs.Steady -- reading rules only adds to the table of names

The table of names says twice where a name stands, by position and by key.  `NameTable.Sound`
is that the two agree, and `NameTable.Grows` that a later table keeps every slot of an earlier
one.  A computation is `Steady` if, from a sound table on,

* it leaves a sound table that has grown, whether it ends with a result or with an error;
* once it had a result it has the same result in every table that has grown since then, and
  leaves that table as it is (`Steady.again`).

Sequencing keeps `Steady` (`Steady.bind`, `Steady.mapM`), so it is enough to look at the few
places where the table is touched.  What a steady computation has returned can then be studied
on a table that does not change any more (`Steady.settled_bind`, `Steady.settled_mapM`).
-/
import JsonRules.Compilation
import Mathlib.Data.List.Nodup
import Mathlib.Data.List.Forall2

namespace JsonRules

set_option autoImplicit false

namespace NameTable

/-! ## Tables -/

/-- A name has the slot in which it stands, and only that; the empty name has none. -/
structure Sound (table : NameTable) : Prop where
  nodup : table.names.Nodup
  nonempty : "" ∉ table.names
  slots : ∀ name slot,
    Entries.get? name table.slots = some slot ↔ table.names[slot]? = some name

/-- The later table keeps all names in their slots, and what is known of computed names. -/
structure Grows (table later : NameTable) : Prop where
  names : table.names <+: later.names
  computed : table.hasComputed = true → later.hasComputed = true

theorem sound_empty : Sound {} :=
  ⟨List.nodup_nil, List.not_mem_nil, fun name slot => by simp [Entries.get?]⟩

theorem Grows.refl (table : NameTable) : table.Grows table := ⟨List.prefix_rfl, id⟩

theorem Grows.trans {a b c : NameTable} (first : a.Grows b) (second : b.Grows c) : a.Grows c :=
  ⟨first.names.trans second.names, second.computed ∘ first.computed⟩

/-- A name keeps its slot. -/
theorem Grows.getElem? {table later : NameTable} (grows : table.Grows later) {slot : Nat}
    {name : String} (stands : table.names[slot]? = some name) :
    later.names[slot]? = some name := by
  obtain ⟨added, same⟩ := grows.names
  obtain ⟨bound, -⟩ := List.getElem?_eq_some_iff.mp stands
  rw [← same, List.getElem?_append_left bound, stands]

theorem Sound.get?_eq_none_iff {table : NameTable} (sound : table.Sound) {name : String} :
    Entries.get? name table.slots = none ↔ name ∉ table.names := by
  rw [List.mem_iff_getElem?, Option.eq_none_iff_forall_ne_some]
  simp only [ne_eq, sound.slots, not_exists]

/-- A new name goes to the end. -/
theorem Sound.add {table : NameTable} (sound : table.Sound) {name : String} (nonempty : name ≠ "")
    (fresh : Entries.get? name table.slots = none) : (table.add name).Sound := by
  have absent : name ∉ table.names := sound.get?_eq_none_iff.mp fresh
  refine ⟨?_, ?_, ?_⟩
  · exact List.nodup_append_comm.mpr (List.nodup_cons.mpr ⟨absent, sound.nodup⟩)
  · simp [NameTable.add, sound.nonempty, Ne.symm nonempty]
  · intro other slot
    have stands : (table.names ++ [name])[slot]? = some other
        ↔ table.names[slot]? = some other ∨ table.names.length = slot ∧ name = other := by
      rw [List.getElem?_append]
      grind
    simp only [NameTable.add, Entries.get?_insert, stands]
    split
    · rename_i same
      subst same
      have absentHere : table.names[slot]? ≠ some other := fun found =>
        absent (List.mem_of_getElem? found)
      simp [absentHere]
    · rename_i different
      simp [sound.slots, Ne.symm different]

theorem grows_add (table : NameTable) (name : String) : table.Grows (table.add name) :=
  ⟨List.prefix_append _ _, id⟩

theorem grows_computed (table : NameTable) :
    table.Grows { table with hasComputed := true } :=
  ⟨List.prefix_rfl, fun _ => rfl⟩

end NameTable

namespace Compilation

variable {α β : Type}

/-! ## Steady computations -/

/-- The table that a computation leaves, with a result or with an error. -/
def tableAfter (m : Compilation α) (table : NameTable) : NameTable :=
  match m table with
  | .ok _ later | .error _ later => later

theorem tableAfter_of_ok {m : Compilation α} {table later : NameTable} {a : α}
    (ok : m table = .ok a later) : tableAfter m table = later := by
  rw [tableAfter, ok]

theorem tableAfter_bind (m : Compilation α) (f : α → Compilation β) (table : NameTable) :
    tableAfter (m >>= f) table
      = match m table with
        | .ok a later => tableAfter (f a) later
        | .error _ later => later := by
  simp only [tableAfter, bind, EStateM.bind]
  cases m table <;> rfl

/-- A computation has a result after another exactly if both have one. -/
theorem bind_eq_ok_iff {m : Compilation α} {f : α → Compilation β} {table later : NameTable}
    {b : β} :
    (m >>= f) table = .ok b later
      ↔ ∃ a between, m table = .ok a between ∧ f a between = .ok b later := by
  simp only [bind, EStateM.bind]
  cases run : m table with
  | ok a between =>
      constructor
      · intro ok
        exact ⟨a, between, rfl, ok⟩
      · rintro ⟨a', between', same, ok⟩
        cases same
        exact ok
  | error error between => simp

/-- The results for a list are had one by one. -/
theorem forall₂_of_mapM {f : α → Compilation β} {items : List α} {results : List β}
    {table later : NameTable} (ok : items.mapM f table = .ok results later) :
    List.Forall₂ (fun item result => ∃ before after, f item before = .ok result after)
      items results := by
  induction items generalizing results table with
  | nil =>
      cases ok
      exact .nil
  | cons item rest ih =>
      rw [List.mapM_cons] at ok
      obtain ⟨result, between, first, ok⟩ := bind_eq_ok_iff.mp ok
      obtain ⟨others, last, further, ok⟩ := bind_eq_ok_iff.mp ok
      cases ok
      exact .cons ⟨table, between, first⟩ (ih further)

/-- From a sound table on the table stays sound and grows, and a result stays what it is. -/
structure Steady (m : Compilation α) : Prop where
  sound : ∀ {table : NameTable}, table.Sound → (tableAfter m table).Sound
  grows : ∀ {table : NameTable}, table.Sound → table.Grows (tableAfter m table)
  again : ∀ {table later last : NameTable} {a : α}, table.Sound → m table = .ok a later →
    last.Sound → later.Grows last → m last = .ok a last

namespace Steady

theorem pure (a : α) : Steady (pure a : Compilation α) where
  sound sound := sound
  grows _ := .refl _
  again _ ok _ _ := by cases ok; rfl

theorem throw (error : CompilationError) : Steady (throw error : Compilation α) where
  sound sound := sound
  grows _ := .refl _
  again _ ok _ _ := by cases ok

theorem bind {m : Compilation α} {f : α → Compilation β} (first : Steady m)
    (second : ∀ a, Steady (f a)) : Steady (m >>= f) where
  sound {table} sound := by
    have between := first.sound sound
    rw [tableAfter_bind]
    cases run : m table with
    | ok a later =>
        rw [tableAfter_of_ok run] at between
        exact (second a).sound between
    | error error later => simpa [tableAfter, run] using between
  grows {table} sound := by
    have grows := first.grows sound
    rw [tableAfter_bind]
    cases run : m table with
    | ok a later =>
        have between := first.sound sound
        rw [tableAfter_of_ok run] at grows between
        exact grows.trans ((second a).grows between)
    | error error later => simpa [tableAfter, run] using grows
  again {table later last b} sound ok lastSound grows := by
    obtain ⟨a, between, ok₁, ok₂⟩ := bind_eq_ok_iff.mp ok
    have betweenSound : between.Sound := tableAfter_of_ok ok₁ ▸ first.sound sound
    have onward : between.Grows later := tableAfter_of_ok ok₂ ▸ (second a).grows betweenSound
    exact bind_eq_ok_iff.mpr ⟨a, last, first.again sound ok₁ lastSound (onward.trans grows),
      (second a).again betweenSound ok₂ lastSound grows⟩

theorem map {m : Compilation α} (g : α → β) (steady : Steady m) : Steady (g <$> m) := by
  rw [← bind_pure_comp]
  exact steady.bind fun a => .pure (g a)

theorem mapM {f : α → Compilation β} {items : List α} (each : ∀ item ∈ items, Steady (f item)) :
    Steady (items.mapM f) := by
  induction items with
  | nil => exact .pure []
  | cons item rest ih =>
      rw [List.mapM_cons]
      refine .bind (each item List.mem_cons_self) fun b => ?_
      exact .bind (ih fun other later => each other (List.mem_cons_of_mem _ later)) fun bs =>
        .pure _

/-! ## On a table that does not change any more -/

/-- A result is had again, without a change of the table, from the table that was left. -/
theorem settles {m : Compilation α} (steady : Steady m) {table later : NameTable} {a : α}
    (sound : table.Sound) (ok : m table = .ok a later) :
    later.Sound ∧ table.Grows later ∧ m later = .ok a later := by
  have laterSound := tableAfter_of_ok ok ▸ steady.sound sound
  have grows := tableAfter_of_ok ok ▸ steady.grows sound
  exact ⟨laterSound, grows, steady.again sound ok laterSound (.refl later)⟩

theorem settled_bind {m : Compilation α} {f : α → Compilation β} (first : Steady m)
    (second : ∀ a, Steady (f a)) {table : NameTable} (sound : table.Sound) {b : β}
    (ok : (m >>= f) table = .ok b table) :
    ∃ a, m table = .ok a table ∧ f a table = .ok b table := by
  obtain ⟨a, between, ok₁, ok₂⟩ := bind_eq_ok_iff.mp ok
  obtain ⟨betweenSound, -, -⟩ := first.settles sound ok₁
  obtain ⟨-, onward, -⟩ := (second a).settles betweenSound ok₂
  -- what `m` gives in `table` it gives again there, so the table in between is `table`
  have back := first.again sound ok₁ sound onward
  obtain ⟨-, rfl⟩ : a = a ∧ table = between := by
    simpa using back.symm.trans ok₁
  exact ⟨a, back, ok₂⟩

theorem settled_mapM {f : α → Compilation β} {items : List α}
    (each : ∀ item ∈ items, Steady (f item)) {table : NameTable} (sound : table.Sound)
    {results : List β} (ok : items.mapM f table = .ok results table) :
    List.Forall₂ (fun item result => f item table = .ok result table) items results := by
  induction items generalizing results with
  | nil =>
      cases ok
      exact .nil
  | cons item rest ih =>
      have eachLater : ∀ other ∈ rest, Steady (f other) := fun other later =>
        each other (List.mem_cons_of_mem _ later)
      rw [List.mapM_cons] at ok
      obtain ⟨result, ok₁, ok⟩ := settled_bind (each item List.mem_cons_self)
        (fun b => .bind (.mapM eachLater) fun bs => .pure _) sound ok
      obtain ⟨others, ok₂, ok⟩ := settled_bind (.mapM eachLater) (fun bs => .pure _) sound ok
      cases ok
      exact .cons ok₁ (ih eachLater ok₂)

end Steady

end Compilation

end JsonRules
