/-
# JsonRules.Proofs.Reports -- reports on printed normal forms

A report shows the normal form of a rule as text.  If the numbers in it are read as they are
printed, this text is the text of a rule again, with the same normal form and of the same size and
depth, unless it is too deep to be read (`Command.check_normalized`): the normal form lists every
operand in an array, also where the rule was written with a single operand and no array around it,
so it can be twice as deep as the text that was read, though not deeper
(`Compilation.depth_toJson_le`).  Of sixty-four negations of negations, then, the text is read and
its normal form is not (`Command.check_negations`).
-/
import JsonRules.Command
import JsonRules.Libraries
import JsonRules.Proofs.Normal
import JsonRules.Proofs.Printed

namespace JsonRules

set_option autoImplicit false

/-! ## Applications of operators -/

theorem Expr.ordered_apply (op : Operator) {operands : List Json}
    (each : ∀ operand ∈ operands, operand.Ordered) :
    (Doc.object [(op.name, Doc.array operands)]).Ordered := by
  refine ⟨List.pairwise_singleton _ _, ?_, trivial⟩
  exact (Doc.orderedItems_iff operands).mpr each

theorem Compilation.depth_operand_le (key : String) {operand item : Json}
    (member : item ∈ operandsOf operand) :
    2 * item.depth + 2 ≤ 2 * (Doc.object [(key, operand)]).depth := by
  cases operand with
  | array items =>
      have inside : item.depth ≤ Doc.depthItems items := Doc.depthItems_le_iff.mp le_rfl item member
      simp only [Doc.depth, Doc.depthEntries]
      omega
  | scalar _ | object _ =>
      obtain rfl := List.mem_singleton.mp member
      simp only [Doc.depth, Doc.depthEntries]
      omega

/-! ## What a report shows of a rule -/

section

variable [PatternEngine]

namespace Expr

theorem nodeCountEach_map {f : Expr → Expr} {items : List Expr}
    (each : ∀ e ∈ items, (f e).nodeCount = e.nodeCount) :
    nodeCountEach (items.map f) = nodeCountEach items := by
  induction items with
  | nil => rfl
  | cons e rest ih =>
      obtain ⟨here, later⟩ := List.forall_mem_cons.mp each
      rw [List.map_cons, nodeCountEach, nodeCountEach, here, ih later]

theorem depthEach_map {f : Expr → Expr} {items : List Expr}
    (each : ∀ e ∈ items, (f e).depth = e.depth) : depthEach (items.map f) = depthEach items := by
  induction items with
  | nil => rfl
  | cons e rest ih =>
      obtain ⟨here, later⟩ := List.forall_mem_cons.mp each
      rw [List.map_cons, depthEach, depthEach, here, ih later]

theorem nodeCount_renumber (f : Nat → Nat) (e : Expr) : (e.renumber f).nodeCount = e.nodeCount := by
  induction e using induct with
  | literal value => rfl
  | array items ih | call _ items ih =>
      simp only [renumber, renumberEach_eq, nodeCount, nodeCountEach_map ih]
  | var name slot ih => simp only [renumber, nodeCount, ih]
  | regex pattern subject compiled ihPattern ihSubject =>
      simp only [renumber, nodeCount, ihPattern, ihSubject]

theorem depth_renumber (f : Nat → Nat) (e : Expr) : (e.renumber f).depth = e.depth := by
  induction e using induct with
  | literal value => rfl
  | array items ih | call _ items ih =>
      simp only [renumber, renumberEach_eq, depth, depthEach_map ih]
  | var name slot ih => simp only [renumber, depth, ih]
  | regex pattern subject compiled ihPattern ihSubject =>
      simp only [renumber, depth, ihPattern, ihSubject]

/-- Rules that differ only in the numbers of their slots are equally large. -/
theorem nodeCount_eq_of_unnumbered {a b : Expr} (same : a.unnumbered = b.unnumbered) :
    a.nodeCount = b.nodeCount := by
  have wiped := congrArg nodeCount same
  rwa [unnumbered, unnumbered, nodeCount_renumber, nodeCount_renumber] at wiped

/-- Rules that differ only in the numbers of their slots are equally deep. -/
theorem depth_eq_of_unnumbered {a b : Expr} (same : a.unnumbered = b.unnumbered) :
    a.depth = b.depth := by
  have wiped := congrArg depth same
  rwa [unnumbered, unnumbered, depth_renumber, depth_renumber] at wiped

/-- The normal form of a rule has its keys in order, since objects have one key only. -/
theorem ordered_toJson {table : NameTable} {e : Expr} (compiled : e.Everywhere table.Compiled) :
    e.toJson.Ordered := by
  induction e using induct with
  | literal value =>
      obtain ⟨scalar, rfl⟩ := (everywhere_literal value).mp compiled
      trivial
  | array items ih =>
      have below := ((everywhere_array items).mp compiled).2
      rw [toJson, toJsonEach_eq, Doc.Ordered, Doc.orderedItems_iff, List.forall_mem_map]
      exact fun e member => ih e member (below e member)
  | var name slot ih =>
      have below := ((everywhere_var name slot).mp compiled).2
      rw [toJson]
      exact ordered_apply .var (List.forall_mem_singleton.mpr (ih below))
  | regex pattern subject _ ihPattern ihSubject =>
      have below := ((everywhere_regex pattern subject _).mp compiled).2
      rw [toJson]
      refine ordered_apply .regex (List.forall_mem_cons.mpr ⟨ihPattern below.1, ?_⟩)
      exact List.forall_mem_singleton.mpr (ihSubject below.2)
  | call op operands ih =>
      have below := ((everywhere_call op operands).mp compiled).2
      rw [toJson, toJsonEach_eq]
      refine ordered_apply op (List.forall_mem_map.mpr fun e member => ?_)
      exact ih e member (below e member)

end Expr

/-! ## How deep a normal form is -/

namespace Compilation

/-- An object and an array stand around the operands. -/
theorem depth_apply_le (op : Operator) {operands : List Expr} {n : Nat}
    (each : ∀ operand ∈ operands, operand.toJson.depth ≤ n) :
    (Doc.object [(op.name, Doc.array (operands.map Expr.toJson))]).depth ≤ n + 2 := by
  have inside : Doc.depthItems (operands.map Expr.toJson) ≤ n :=
    Doc.depthItems_le_iff.mpr (List.forall_mem_map.mpr each)
  simp only [Doc.depth, Doc.depthEntries]
  omega

theorem depth_build_le {op : Operator} {operands : List Expr} {e : Expr} {table later : NameTable}
    {n : Nat} (each : ∀ operand ∈ operands, operand.toJson.depth ≤ n)
    (ok : build op operands table = .ok e later) : e.toJson.depth ≤ n + 2 := by
  rcases build_eq op operands with ⟨same, -⟩ | ⟨-, same⟩
    | ⟨-, pattern, subject, rest, rfl, same⟩ | ⟨-, -, -, same⟩ <;> rw [same] at ok
  · cases ok
    rw [Expr.toJson, Expr.toJsonEach_eq]
    exact depth_apply_le op each
  · obtain ⟨slot, later, -, same⟩ := bind_eq_ok_iff.mp ok
    cases same
    have name : (nameOperand operands).toJson.depth ≤ n := by
      cases operands with
      | nil => exact Nat.zero_le n
      | cons first rest => exact each first List.mem_cons_self
    exact depth_apply_le .var (List.forall_mem_singleton.mpr name)
  · obtain ⟨compiled, later, -, same⟩ := bind_eq_ok_iff.mp ok
    cases same
    have two : ∀ operand ∈ [pattern, subject], operand.toJson.depth ≤ n := by
      intro operand member
      exact each operand (List.mem_append_left rest member)
    exact depth_apply_le .regex two
  · cases ok
    rw [Expr.toJson, Expr.toJsonEach_eq]
    exact depth_apply_le op fun operand kept => each operand (Operator.mem_of_mem_keep kept)

/-- A rule is written at most twice as deep as it was read: only around single operands does an
array come in. -/
theorem depth_toJson_le (json : Json) {table later : NameTable} {e : Expr}
    (ok : ofJson json table = .ok e later) : e.toJson.depth ≤ 2 * json.depth := by
  induction json using formInduct generalizing table later e with
  | scalar value =>
      cases ok
      exact Nat.zero_le _
  | array items ih =>
      rw [ofJson_array] at ok
      obtain ⟨es, between, read, same⟩ := bind_eq_ok_iff.mp ok
      cases same
      have below : ∀ e ∈ es, e.toJson.depth ≤ 2 * Doc.depthItems items := by
        refine forall_of_forall₂ (forall₂_of_mapM read) ?_
        rintro item member e ⟨before, after, read⟩
        have inside := Doc.depthItems_le_iff.mp le_rfl item member
        exact (ih item member read).trans (Nat.mul_le_mul_left 2 inside)
      have all : Doc.depthItems (es.map Expr.toJson) ≤ 2 * Doc.depthItems items :=
        Doc.depthItems_le_iff.mpr (List.forall_mem_map.mpr below)
      rw [Expr.toJson, Expr.toJsonEach_eq]
      simp only [Doc.depth]
      omega
  | apply key operand ih =>
      rw [ofJson_apply] at ok
      obtain ⟨op, _, -, ok⟩ := bind_eq_ok_iff.mp ok
      obtain ⟨operands, between, read, built⟩ := bind_eq_ok_iff.mp ok
      have room : 2 ≤ 2 * (Doc.object [(key, operand)]).depth := by
        simp only [Doc.depth]
        omega
      have below : ∀ e ∈ operands,
          e.toJson.depth ≤ 2 * (Doc.object [(key, operand)]).depth - 2 := by
        refine forall_of_forall₂ (forall₂_of_mapM read) ?_
        rintro item member e ⟨before, after, read⟩
        have here := ih item member read
        have inside := depth_operand_le key member
        omega
      have whole := depth_build_le below built
      omega
  | keyCount entries wrong =>
      rw [ofJson_keyCount wrong] at ok
      cases ok

end Compilation

end

/-! ## Checking a text -/

namespace Command

section

variable [PatternEngine] [Json.Rounding]

theorem check_of_read {text : String} {json : Json} {rule : Rule} (read : Json.read text = .ok json)
    (valid : Rule.ofJson json = .ok rule) : check text = .ok (.ofRule rule) := by
  rw [check, readRule, Rule.read, read]
  simp only [valid]
  rfl

theorem check_of_error {text : String} {error : Json.ReadError}
    (read : Json.read text = .error error) : check text = .error (.rule (.notJson error)) := by
  rw [check, readRule, Rule.read, read]
  rfl

/-- What is reported on is a rule that was read. -/
theorem exists_of_check {text : String} {report : Report} (checked : check text = .ok report) :
    ∃ json rule, Json.read text = .ok json ∧ Rule.ofJson json = .ok rule ∧
      report = .ofRule rule := by
  cases read : Json.read text with
  | error error =>
      rw [check_of_error read] at checked
      cases checked
  | ok json =>
      cases valid : Rule.ofJson json with
      | error error =>
          rw [check, readRule, Rule.read, read] at checked
          simp only [valid] at checked
          cases checked
      | ok rule =>
          rw [check_of_read read valid] at checked
          cases checked
          exact ⟨json, rule, rfl, valid, rfl⟩

/-- A normal form that is not too deep is printed as a text with the same report, up to the table of
names. -/
theorem check_render_toJson {json : Json} {rule : Rule} (valid : Rule.ofJson json = .ok rule)
    (rereads : rule.toJson.All Json.Scalar.Rereads)
    (shallow : rule.toJson.depth ≤ Json.Reader.maxDepth) :
    ∃ again, check rule.toJson.render = .ok again ∧ again.normalized = rule.toJson ∧
      again.nodeCount = rule.root.nodeCount ∧ again.depth = rule.root.depth := by
  have ordered : rule.toJson.Ordered := Expr.ordered_toJson (Rule.compiled_of_ofJson valid)
  obtain ⟨normal, again, same⟩ := Rule.exists_normal valid
  refine ⟨_, check_of_read (Json.read_render ordered rereads shallow) again, ?_, ?_, ?_⟩
  · exact Expr.toJson_eq_of_unnumbered same
  · exact Expr.nodeCount_eq_of_unnumbered same
  · exact Expr.depth_eq_of_unnumbered same

/-- A text that is no more than half as deep as the reader goes has a normal form that is a rule
when it is printed. -/
theorem check_again_of_half {text : String} {json : Json} {report : Report}
    (read : Json.read text = .ok json) (half : 2 * json.depth ≤ Json.Reader.maxDepth)
    (checked : check text = .ok report)
    (rereads : report.normalized.All Json.Scalar.Rereads) :
    ∃ again, check report.normalized.render = .ok again ∧
      again.normalized = report.normalized ∧ again.nodeCount = report.nodeCount ∧
      again.depth = report.depth := by
  obtain ⟨json', rule, read', valid, rfl⟩ := exists_of_check checked
  obtain rfl : json = json' := Except.ok.inj (read.symm.trans read')
  have bound := Compilation.depth_toJson_le json (Rule.ofJson_eq_ok_iff.mp valid)
  exact check_render_toJson valid rereads (bound.trans half)

/-- **A printed normal form is a rule, unless it is too deep.**  Let the text of each double in the
normal form that a report shows be read as this double.  Then the text of the normal form is checked
with the same normal form, node count and depth, if the normal form is no deeper than the reader of
JSON goes; otherwise it is refused as too deep. -/
theorem check_normalized {text : String} {report : Report} (checked : check text = .ok report)
    (rereads : report.normalized.All Json.Scalar.Rereads) :
    (report.normalized.depth ≤ Json.Reader.maxDepth →
      ∃ again, check report.normalized.render = .ok again ∧
        again.normalized = report.normalized ∧ again.nodeCount = report.nodeCount ∧
        again.depth = report.depth) ∧
    (Json.Reader.maxDepth < report.normalized.depth →
      ∃ error, check report.normalized.render = .error (.rule (.notJson error)) ∧
        error.cause = .tooDeep) := by
  obtain ⟨json, rule, -, valid, rfl⟩ := exists_of_check checked
  constructor
  · intro shallow
    exact check_render_toJson valid rereads shallow
  · intro deep
    have ordered : rule.toJson.Ordered := Expr.ordered_toJson (Rule.compiled_of_ofJson valid)
    obtain ⟨error, refused, cause⟩ := Json.read_render_deep ordered rereads deep
    exact ⟨error, check_of_error refused, cause⟩

end

/-- A rule in which a name stands without an array, a negation has one operand too many, and there is
a fraction. -/
def shorthand : String :=
  "\x7b\"cat\":[\x7b\"!\":[\x7b\"var\":\"seen\"\x7d,\x7b\"var\":\"lost\"\x7d]\x7d,2.50]\x7d"

/-- The report on it: the name stands in an array, and the operand too many is left out, but its name
is still in the table. -/
def shorthandReport : Report where
  table := { names := ["seen", "lost"], slots := [("lost", 1), ("seen", 0)] }
  nodeCount := 5
  depth := 4
  normalized :=
    .object [("cat", .array
      [.object [("!", .array [.object [("var", .array [.scalar (.string "seen")])]])],
       .scalar (.number (.double (5 / 2) (by decide +kernel)))])]

theorem check_normalized_shorthand :
    check shorthand = .ok shorthandReport ∧
      shorthandReport.normalized.render
        = "\x7b\"cat\":[\x7b\"!\":[\x7b\"var\":[\"seen\"]\x7d]\x7d,2.5]\x7d" ∧
      shorthandReport.normalized.All Json.Scalar.Rereads ∧
      ∃ again, check shorthandReport.normalized.render = .ok again ∧
        again.normalized = shorthandReport.normalized ∧
        again.nodeCount = shorthandReport.nodeCount ∧ again.depth = shorthandReport.depth := by
  have checked : check shorthand = .ok shorthandReport := by decide +kernel
  have rereads : shorthandReport.normalized.All Json.Scalar.Rereads := by decide +kernel
  have shallow : shorthandReport.normalized.depth ≤ Json.Reader.maxDepth := by decide +kernel
  exact ⟨checked, by decide +kernel, rereads, (check_normalized checked rereads).1 shallow⟩

/-! ## Negations of negations

Their normal forms are as deep as normal forms get. -/

/-- A negation of a negation and so on, with or without an array around each operand. -/
def negations (listed : Bool) : Nat → Json
  | 0 => .scalar (.bool true)
  | n + 1 =>
      let operand := negations listed n
      .object [(Operator.not.name, if listed then .array [operand] else operand)]

theorem ordered_negations (listed : Bool) (n : Nat) : (negations listed n).Ordered := by
  induction n with
  | zero => trivial
  | succ n ih =>
      cases listed with
      | false => exact ⟨List.pairwise_singleton _ _, ih, trivial⟩
      | true => exact Expr.ordered_apply .not (List.forall_mem_singleton.mpr ih)

/-- There is no double that could be read as another one. -/
theorem rereads_negations [Json.Rounding] (listed : Bool) (n : Nat) :
    (negations listed n).All Json.Scalar.Rereads := by
  induction n with
  | zero => trivial
  | succ n ih =>
      cases listed with
      | false => exact ⟨ih, trivial⟩
      | true => exact ⟨⟨ih, trivial⟩, trivial⟩

/-- An array around each operand makes the form twice as deep. -/
theorem depth_negations (listed : Bool) (n : Nat) :
    (negations listed n).depth = if listed then 2 * n else n := by
  induction n with
  | zero => cases listed <;> rfl
  | succ n ih =>
      cases listed with
      | false =>
          have outer : (negations false (n + 1)).depth = 1 + (negations false n).depth := by
            simp [negations, Doc.depth, Doc.depthEntries]
          simp only [Bool.false_eq_true, if_false] at ih ⊢
          omega
      | true =>
          have outer : (negations true (n + 1)).depth = 1 + (1 + (negations true n).depth) := by
            simp [negations, Doc.depth, Doc.depthEntries, Doc.depthItems]
          simp only [if_true] at ih ⊢
          omega

theorem operandsOf_negations (n : Nat) :
    Compilation.operandsOf (negations false n) = [negations false n] := by
  cases n <;> rfl

/-- The normal form has the arrays. -/
theorem ofJson_negations [PatternEngine] (n : Nat) (table : NameTable) :
    ∃ e, Compilation.ofJson (negations false n) table = .ok e table ∧
      e.toJson = negations true n := by
  induction n with
  | zero => exact ⟨_, rfl, rfl⟩
  | succ n ih =>
      obtain ⟨operand, read, normal⟩ := ih
      refine ⟨.call .not [operand], ?_, ?_⟩
      · show Compilation.ofJson (.object [(Operator.not.name, negations false n)]) table = _
        have operands : [negations false n].mapM Compilation.ofJson table = .ok [operand] table := by
          rw [List.mapM_cons]
          exact Compilation.bind_eq_ok_iff.mpr ⟨operand, table, read, rfl⟩
        rw [Compilation.ofJson_apply, operandsOf_negations, Compilation.operator_name]
        exact Compilation.bind_eq_ok_iff.mpr ⟨.not, table, rfl,
          Compilation.bind_eq_ok_iff.mpr ⟨[operand], table, operands, rfl⟩⟩
      · rw [Expr.toJson, Expr.toJsonEach_eq, List.map_singleton, normal]
        rfl

/-- Of sixty-four negations the normal form is too deep. -/
theorem check_negations :
    ∃ report, check (negations false 64).render = .ok report ∧
      report.normalized = negations true 64 ∧
      ∃ error, check report.normalized.render = .error (.rule (.notJson error)) ∧
        error.cause = .tooDeep := by
  obtain ⟨e, read, normal⟩ := ofJson_negations 64 {}
  have valid : Rule.ofJson (negations false 64) = .ok ⟨e, {}⟩ := Rule.ofJson_eq_ok_iff.mpr read
  have shallow : (negations false 64).depth ≤ Json.Reader.maxDepth := by
    rw [depth_negations]
    decide
  have deep : Json.Reader.maxDepth < (negations true 64).depth := by
    rw [depth_negations]
    decide
  obtain ⟨error, refused, cause⟩ := Json.read_render_deep (ordered_negations true 64)
    (rereads_negations true 64) deep
  have written := Json.read_render (ordered_negations false 64) (rereads_negations false 64) shallow
  refine ⟨_, check_of_read written valid, normal, error, ?_, cause⟩
  have same : (Report.ofRule ⟨e, {}⟩).normalized = negations true 64 := normal
  rw [same]
  exact check_of_error refused

end Command

end JsonRules
