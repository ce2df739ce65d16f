/-
# JsonRules.Proofs.Forms -- reading forms that are put together from others

The form of an operator lists the forms of its operands.  They are read one after the other, and
what they are read as is put together (`Compilation.ofJson_form`).  Many of them name no variable
and are read alike from any table, which they leave as it is (`Compilation.NamesNothing`); where
the others are known, so is the whole.
-/
import JsonRules.Proofs.Normal

namespace JsonRules

set_option autoImplicit false

/-- The form that applies the operator to a list of operands. -/
def Operator.form (op : Operator) (operands : List Json) : Json :=
  .object [(op.name, .array operands)]

variable [PatternEngine]

namespace Compilation

variable {op : Operator} {form : Json} {forms : List Json} {e : Expr} {operands : List Expr}
  {table between later : NameTable}

/-! ## Operands in turn -/

/-- The forms are read one after the other. -/
def ReadsInTurn (forms : List Json) (operands : List Expr) (table later : NameTable) : Prop :=
  forms.mapM ofJson table = .ok operands later

theorem readsInTurn_nil (table : NameTable) : ReadsInTurn [] [] table table := rfl

theorem ReadsInTurn.cons (rest : ReadsInTurn forms operands between later)
    (first : ofJson form table = .ok e between) :
    ReadsInTurn (form :: forms) (e :: operands) table later := by
  rw [ReadsInTurn, List.mapM_cons]
  exact bind_eq_ok_iff.mpr ⟨e, between, first, bind_eq_ok_iff.mpr ⟨operands, later, rest, rfl⟩⟩

/-- The operator is put together with what its operands are read as. -/
theorem ofJson_form (each : ReadsInTurn forms operands table later) :
    ofJson (op.form forms) table = build op operands later := by
  rw [Operator.form, ofJson_apply, operator_name, pure_bind]
  show EStateM.bind (forms.mapM ofJson) (build op) table = build op operands later
  rw [EStateM.bind, show forms.mapM ofJson table = .ok operands later from each]

theorem ofJson_form_call (each : ReadsInTurn forms operands table later) (notVar : op ≠ .var)
    (notRegex : op ≠ .regex) (enough : op.leastOperands ≤ operands.length) :
    ofJson (op.form forms) table = .ok (.call op (op.keep operands)) later := by
  rw [ofJson_form each, build_call enough notVar notRegex]
  rfl

/-! ## Forms without names -/

/-- From any table the form is read as the expression, and the table stays as it is. -/
def NamesNothing (form : Json) (e : Expr) : Prop := ∀ table, ofJson form table = .ok e table

theorem namesNothing_scalar (value : Json.Scalar) :
    NamesNothing (.scalar value) (.literal (.scalar (Scalar.ofJson value))) := fun _ => rfl

/-- The variable with the empty name is the whole record and has no slot. -/
theorem namesNothing_record :
    NamesNothing (Operator.var.form [.scalar (.string "")])
      (.var (.literal (.string "")) none) := fun _ => rfl

theorem readsInTurn_of_namesNothing (each : List.Forall₂ NamesNothing forms operands)
    (table : NameTable) : ReadsInTurn forms operands table table := by
  induction each with
  | nil => exact readsInTurn_nil table
  | cons first rest ih => exact ih.cons (first table)

theorem namesNothing_call (each : List.Forall₂ NamesNothing forms operands) (notVar : op ≠ .var)
    (notRegex : op ≠ .regex) (enough : op.leastOperands ≤ operands.length) :
    NamesNothing (op.form forms) (.call op (op.keep operands)) := fun table =>
  ofJson_form_call (readsInTurn_of_namesNothing each table) notVar notRegex enough

end Compilation

end JsonRules
