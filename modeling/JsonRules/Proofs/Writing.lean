/-
# JsonRules.Proofs.Writing -- log lines that are written as they come

A run lists what happens and leaves it at that.  An expression can also be evaluated in any other
monad in which events happen (`Expr.evalIn`), and there each event has its effect at once: the next
operand finds what the ones before have left.  This makes no difference.  What comes out is the run,
of which the events are performed in order and then the outcome is given (`Expr.evalIn_eq`).

One such monad holds a sink for log lines.  A log operator writes its line to the sink when its
operand has a value, and goes on with this value whether or not the line could be written
(`Expr.evalWriting`).  So the outcome is that of the run for every kind of sinks, and the sink has
been offered the lines of the run one after the other (`Expr.evalWriting_eq`).
-/
import JsonRules.Proofs.Simulation
import JsonRules.Sink

namespace JsonRules

set_option autoImplicit false

variable {M : Type → Type} [Monad M] [LawfulMonad M] [MonadLift (Except Fault) M]
  [LawfulMonadLift (Except Fault) M]

/-! ## Performing a run -/

/-- Nothing comes after a fault. -/
theorem liftM_error_bind {α β : Type} (fault : Fault) (next : α → M β) :
    (liftM (Except.error fault : Except Fault α) : M α) >>= next
      = liftM (Except.error fault : Except Fault β) := by
  -- a fault in place of a result is a fault where there can be no result
  have hollow (γ : Type) : (liftM (Except.error fault : Except Fault γ) : M γ)
      = liftM (Except.error fault : Except Fault Empty) >>= fun nothing => nothing.elim := by
    rw [show (fun nothing : Empty => (nothing.elim : M γ))
      = fun nothing => liftM (nothing.elim : Except Fault γ) from funext nofun, ← liftM_bind]
    rfl
  rw [hollow α, hollow β, bind_assoc]
  exact congrArg _ (funext nofun)

namespace Run

variable [Emits M] {α β : Type}

/-- Lets the events of a run happen, and then ends like it. -/
def perform (run : Run α) : M α := do
  run.events.forM Emits.emit
  run.outcome

omit [LawfulMonadLift (Except Fault) M] in
theorem perform_ofExcept (outcome : Except Fault α) :
    (ofExcept outcome).perform = (liftM outcome : M α) := by
  simp [perform, ofExcept]

theorem perform_emit (event : Event) : (emit event).perform = (Emits.emit event : M Unit) := by
  simp [perform, emit, liftM_ok]

theorem perform_bind (run : Run α) (next : α → Run β) :
    (run >>= next).perform = (run.perform >>= fun result => (next result).perform : M β) := by
  obtain ⟨events, outcome⟩ := run
  cases outcome with
  | error fault => simp [perform, Bind.bind, Run.bind, liftM_error_bind]
  | ok result => simp [perform, Bind.bind, Run.bind, liftM_ok]

end Run

/-! ## Evaluating in another monad -/

section Performed

variable [Emits M]

/-- A run beside a computation that performs it. -/
def Simulation.performing : Simulation M where
  Rel r s := s = r.perform
  ofExcept outcome := (Run.perform_ofExcept outcome).symm
  bind {α β r s f g} first next := by
    subst first
    obtain ⟨events, outcome⟩ := r
    rw [Run.perform_bind]
    cases outcome with
    | error fault => simp [Run.perform, liftM_error_bind]
    | ok x => simp [Run.perform, liftM_ok, next x rfl]

namespace Simulation

variable {host : Host}

theorem logs_performing : (performing (M := M)).Logs := fun value _ =>
  (Run.perform_emit (.log value)).symm

theorem asks_performing : (performing (M := M)).Asks host host := by
  intro σ τ paired name slot
  refine ⟨?_, fun _ _ => trivial⟩
  cases paired with
  | host =>
      show _ = Run.perform (Run.emit _ >>= fun _ => Run.ofExcept (.ok _))
      rw [Run.perform_bind, Run.perform_emit, Run.perform_ofExcept, liftM_ok]
      rfl
  | element good => exact (liftM_ok _).symm.trans (Run.perform_ofExcept _).symm

end Simulation

variable [PatternEngine]

mutual

/-- The meaning of an expression in a monad in which events happen. -/
def Expr.evalIn : Expr → Meaning M
  | .literal value => fun _ => return value
  | .array items => fun scope => return .array (← Meaning.each (evalInEach items) scope)
  | .var name slot => Meaning.var name.evalIn slot
  | .regex pattern subject compiled => Meaning.matching pattern.evalIn subject.evalIn compiled
  | .call op operands => Meaning.ofOperator op (evalInEach operands)

def Expr.evalInEach : List Expr → List (Meaning M)
  | [] => []
  | e :: rest => e.evalIn :: evalInEach rest

end

omit [LawfulMonad M] [LawfulMonadLift (Except Fault) M] in
theorem Expr.evalInEach_eq (operands : List Expr) :
    (evalInEach operands : List (Meaning M)) = operands.map evalIn := by
  induction operands with
  | nil => rfl
  | cons e rest ih => rw [evalInEach, ih, List.map_cons]

namespace Simulation

variable {host : Host}

theorem alike_evalIn (e : Expr) : (performing (M := M)).Alike host host e.eval e.evalIn := by
  induction e using Expr.induct with
  | literal value => exact fun _ _ _ => .pure trivial
  | array items ih =>
      intro σ τ paired
      simp only [Expr.eval, Expr.evalEach_eq, Expr.evalIn, Expr.evalInEach_eq]
      exact (each (forall₂_map ih) paired).bind fun _ _ => .pure trivial
  | var name slot ih => exact var asks_performing ih slot
  | regex pattern subject compiled ihPattern ihSubject =>
      exact matching ihPattern ihSubject compiled
  | call op operands ih =>
      rw [Expr.eval, Expr.evalEach_eq, Expr.evalIn, Expr.evalInEach_eq]
      exact ofOperator (fun _ => asks_performing) (fun _ => logs_performing) (forall₂_map ih)

end Simulation

/-- An expression is evaluated to its run, whatever events do. -/
theorem Expr.evalIn_eq (e : Expr) (scope : Scope) :
    e.evalIn scope = ((e.eval scope).perform : M Value) :=
  Simulation.performing.related_of_alike (fun _ => trivial)
    (fun _ => Simulation.alike_evalIn e) scope

end Performed

/-! ## Writing to a sink -/

/-- Computations that may fault and write log lines to a sink. -/
abbrev Writing (S : Type) := ExceptT Fault (StateM S)

section Sinks

variable {S : Type} [Writable S]

/-- A log line is written at once; a look-up leaves the sink alone. -/
instance : Emits (Writing S) where
  emit
    | .log value => liftM (Writable.log value : StateM S Unit)
    | .lookup _ _ => return

/-- A sink to which a run is performed is offered the values that the run logs. -/
theorem Run.run_perform {α : Type} (run : Run α) (sink : S) :
    ((run.perform : Writing S α).run).run sink
      = (run.outcome, Writable.logAll run.logged sink) := by
  obtain ⟨events, outcome⟩ := run
  induction events generalizing sink with
  | nil => cases outcome <;> rfl
  | cons event rest ih =>
      cases event with
      | lookup name slot => exact ih sink
      | log value => exact ih ((Writable.log value).run sink).2

variable [PatternEngine]

/-- Evaluates an expression with a sink for its log lines: how it ends, and what has become of the
sink. -/
def Expr.evalWriting (e : Expr) (scope : Scope) (sink : S) : Except Fault Value × S :=
  ((e.evalIn scope : Writing S Value).run).run sink

theorem Expr.evalWriting_eq (e : Expr) (scope : Scope) (sink : S) :
    e.evalWriting scope sink
      = ((e.eval scope).outcome, Writable.logAll (e.eval scope).logged sink) := by
  rw [evalWriting, evalIn_eq, Run.run_perform]

end Sinks

end JsonRules
