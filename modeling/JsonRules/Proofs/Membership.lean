/-
# JsonRules.Proofs.Membership -- membership in an array as a quantifier

Whether an array has a certain element can be asked directly, and it can be asked of its elements
one by one, with a body that compares the element with what is looked for.  Inside the body the
element is the whole record, which the empty name stands for, and it is on the left where the
direct question has it on the right.  Strict equality does not mind (`Coercion.strictEq_comm`),
whatever the elements are: a NaN, an array or an object is equal to nothing from either side.

No body ends with a fault or logs anything, so it does not show where the search stops; the three
questions have one answer (`Expr.membership_is_a_strict_scan`).
-/
import JsonRules.Libraries
import JsonRules.Proofs.Forms
import JsonRules.Proofs.Order
import JsonRules.Proofs.Quantifiers

namespace JsonRules

set_option autoImplicit false

section

/-! ## Strict equality -/

theorem Double.beq_comm (a b : Float) : (a == b) = (b == a) := by
  rw [Bool.eq_iff_iff, beq_iff, beq_iff, ← order?_swap b a]
  rcases order? b a with _ | _ | _ | _ <;> simp

theorem Coercion.strictEq_comm (a b : Value) : strictEq a b = strictEq b a := by
  unfold strictEq
  split
  · rfl
  · exact BEq.comm
  · exact BEq.comm
  · exact BEq.comm
  · exact Double.beq_comm _ _
  · exact BEq.comm
  · -- No pair of one kind, so neither is the pair turned around.
    split <;> simp_all

/-! ## Comparing every element -/

namespace Meaning

/-- Asked of one item after the other with an answer at once, a quantifier has an answer at once. -/
theorem quantify_pure (p : Value → Bool) (items : List Value) :
    quantify .some (fun item => (pure (p item) : Run Bool)) items = pure (items.any p) ∧
      quantify .none (fun item => (pure (p item) : Run Bool)) items = pure (!items.any p) := by
  have searched : items.anyM (fun item => (pure (p item) : Run Bool)) = pure (items.any p) :=
    List.anyM_pure
  constructor
  · exact searched
  · rw [quantify, searched, pure_bind]

end Meaning

variable [PatternEngine]

namespace Expr

variable {v : Scalar} {x : Expr} {scope : Scope} {items : List Value}

/-- The body that compares the whole record with a literal. -/
def sameAs (v : Scalar) : Expr :=
  call (.equality .strict) [var (literal (.string "")) none, literal (.scalar v)]

theorem holds_sameAs (op : Operator) (v : Scalar) (item : Value) :
    Meaning.holds op (sameAs v).eval item = pure (Coercion.strictEq (.scalar v) item) := by
  rw [Coercion.strictEq_comm]
  rfl

/-- The array runs, and its elements are compared with the literal. -/
theorem eval_member_of_lists (listed : x.Lists scope items) :
    (call .member [literal (.scalar v), x]).eval scope
      = ⟨(x.eval scope).events, .ok (.bool (items.any (Coercion.strictEq (.scalar v))))⟩ := by
  have runs : (call .member [literal (.scalar v), x]).eval scope
      = x.eval scope >>= fun value => Run.ofExcept (Meaning.contains (.scalar v) value)
          >>= fun found => pure (.bool found) := rfl
  -- Null contains nothing, as an array without elements does.
  rcases listed with ended | ⟨ended, rfl⟩ <;>
    rw [runs, Run.bind_of_ok ended] <;>
    exact congrArg (Run.mk · _) (List.append_nil _)

theorem eval_quantifier_of_lists {kind : Quantifier} {answer : Bool} (listed : x.Lists scope items)
    (answers : Meaning.quantify kind
      (fun item => (pure (Coercion.strictEq (.scalar v) item) : Run Bool)) items = pure answer) :
    (call (.quantifier kind) [x, sameAs v]).eval scope
      = ⟨(x.eval scope).events, .ok (.bool answer)⟩ := by
  rw [eval_call_of_lists rfl listed, eval_quantifier_literal,
    funext (holds_sameAs (.quantifier kind) v), answers]
  exact congrArg (Run.mk · _) (List.append_nil _)

/-- **Membership in an array is a strict scan.**  Let an operand give an array, or null for no
elements.  Then asking whether a literal is in it, whether some element is strictly equal to the
literal, and whether none is, are three runs without a fault, in which the operand runs and nothing
else happens.  The first two have the same answer, which is true exactly if the literal is strictly
equal to an element, and the third one has the opposite answer.  And this is what the three
questions are read as, wherever the operand is read. -/
theorem membership_is_a_strict_scan (leaf : Json.Scalar) (listed : x.Lists scope items) :
    let v := literal (.scalar (Scalar.ofJson leaf))
    let body := sameAs (Scalar.ofJson leaf)
    let bodyForm := (Operator.equality .strict).form
      [Operator.var.form [.scalar (.string "")], .scalar leaf]
    (∀ form table later, Compilation.ofJson form table = .ok x later →
      Compilation.ofJson (Operator.member.form [.scalar leaf, form]) table
        = .ok (call .member [v, x]) later ∧
      ∀ kind, Compilation.ofJson ((Operator.quantifier kind).form [form, bodyForm]) table
        = .ok (call (.quantifier kind) [x, body]) later) ∧
    ∃ found : Bool,
      (found = true ↔
        ∃ item ∈ items, Coercion.strictEq item (.scalar (Scalar.ofJson leaf)) = true) ∧
      (call .member [v, x]).eval scope = ⟨(x.eval scope).events, .ok (.bool found)⟩ ∧
      (call (.quantifier .some) [x, body]).eval scope
        = ⟨(x.eval scope).events, .ok (.bool found)⟩ ∧
      (call (.quantifier .none) [x, body]).eval scope
        = ⟨(x.eval scope).events, .ok (.bool !found)⟩ := by
  intro v body bodyForm
  constructor
  · intro form table later read
    have bodyReads : Compilation.NamesNothing bodyForm body :=
      Compilation.namesNothing_call
        (.cons Compilation.namesNothing_record (.cons (Compilation.namesNothing_scalar leaf) .nil))
        nofun nofun (Nat.le_refl 2)
    constructor
    · exact Compilation.ofJson_form_call
        (((Compilation.readsInTurn_nil later).cons read).cons
          (Compilation.namesNothing_scalar leaf table)) nofun nofun (Nat.le_refl 2)
    · intro kind
      exact Compilation.ofJson_form_call
        (((Compilation.readsInTurn_nil later).cons (bodyReads later)).cons read)
        nofun nofun (Nat.le_refl 2)
  · obtain ⟨some, none⟩ := Meaning.quantify_pure
      (Coercion.strictEq (.scalar (Scalar.ofJson leaf))) items
    refine ⟨_, ?_, eval_member_of_lists listed, eval_quantifier_of_lists listed some,
      eval_quantifier_of_lists listed none⟩
    rw [List.any_eq_true]
    simp only [Coercion.strictEq_comm (.scalar (Scalar.ofJson leaf))]

end Expr

end

namespace Expr

/-- A NaN, an array and an object are no double, and the double that is among them is not the
integer that is equal to it. -/
theorem membership_is_a_strict_scan_mixed :
    let items := [Value.double (0.0 / 0.0), .array [Value.double 2], .object [], .double 2]
    let array := literal (.array items)
    let scope := Scope.element .null
    let double : Json.Scalar := .number (.double 2 (by decide +kernel))
    let integer : Json.Scalar := .number (.integer 2 (by decide))
    let asks (leaf : Json.Scalar) : Run Value :=
      (call .member [literal (.scalar (Scalar.ofJson leaf)), array]).eval scope
    let scans (kind : Quantifier) (leaf : Json.Scalar) : Run Value :=
      (call (.quantifier kind) [array, sameAs (Scalar.ofJson leaf)]).eval scope
    array.Lists scope items ∧
      asks double = scans .some double ∧ (asks double).outcome = .ok (.bool true) ∧
      asks integer = scans .some integer ∧ (scans .none integer).outcome = .ok (.bool true) := by
  intro items array scope double integer asks scans
  have listed : array.Lists scope items := .inl rfl
  obtain ⟨-, _, -, here, there, -⟩ := membership_is_a_strict_scan double listed
  obtain ⟨-, _, -, here', there', -⟩ := membership_is_a_strict_scan integer listed
  exact ⟨listed, here.trans there.symm, by decide +kernel, here'.trans there'.symm,
    by decide +kernel⟩

end Expr

end JsonRules
