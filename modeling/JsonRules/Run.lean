/-
# JsonRules.Run -- runs: what happened, and how it ended

An evaluation does two things that can be seen from outside: it asks the host for variables,
and it logs values.  A run lists them in order and ends with a result or a fault; what
happened before a fault stays.

Other computations than runs can have events in them too (`Emits`).  There events may have effects
right away, such as a line in a sink.
-/
import JsonRules.Fault
import JsonRules.Value

namespace JsonRules

set_option autoImplicit false

/-- What can be seen of an evaluation. -/
inductive Event where
  /-- The host is asked for a variable. -/
  | lookup (name : String) (slot : Option Nat)
  | log (value : Value)
  deriving DecidableEq

/-- Computations in which events happen. -/
class Emits (m : Type → Type) where
  emit : Event → m Unit

/-- What happened, in order, and how it ended. -/
structure Run (α : Type) where
  events : List Event
  outcome : Except Fault α

namespace Run

variable {α β : Type}

/-- A result without an event. -/
protected def pure (result : α) : Run α := ⟨[], .ok result⟩

/-- Goes on with the result of a run, unless it ended with a fault. -/
protected def bind (run : Run α) (next : α → Run β) : Run β :=
  match run.outcome with
  | .ok result =>
      let after := next result
      ⟨run.events ++ after.events, after.outcome⟩
  | .error fault => ⟨run.events, .error fault⟩

instance : Monad Run where
  pure := Run.pure
  bind := Run.bind

protected theorem map_id {α : Type} (run : Run α) : id <$> run = run := by
  obtain ⟨events, outcome⟩ := run
  cases outcome <;> simp [Functor.map, Run.bind, Run.pure]

protected theorem pure_bind {α β : Type} (result : α) (next : α → Run β) :
    (pure result >>= next : Run β) = next result := by
  simp [pure, bind, Run.bind, Run.pure]

protected theorem bind_assoc {α β γ : Type} (run : Run α) (f : α → Run β) (g : β → Run γ) :
    run >>= f >>= g = run >>= fun result => f result >>= g := by
  obtain ⟨events, outcome⟩ := run
  cases outcome with
  | error fault => simp [bind, Run.bind]
  | ok result =>
      obtain ⟨more, outcome⟩ : ∃ more outcome, f result = ⟨more, outcome⟩ := ⟨_, _, rfl⟩
      obtain ⟨outcome, h⟩ := outcome
      cases outcome <;> simp [bind, Run.bind, h]

instance : LawfulMonad Run := .mk' _ Run.map_id Run.pure_bind Run.bind_assoc

/-- A single event. -/
def emit (event : Event) : Run Unit := ⟨[event], .ok ()⟩

instance : Emits Run := ⟨emit⟩

@[simp] theorem emits_emit (event : Event) : (Emits.emit event : Run Unit) = emit event := rfl

/-- A run without events that ends as given. -/
def ofExcept (outcome : Except Fault α) : Run α := ⟨[], outcome⟩

instance : MonadLift (Except Fault) Run := ⟨ofExcept⟩

instance : LawfulMonadLift (Except Fault) Run where
  monadLift_pure _ := rfl
  monadLift_bind outcome _ := by cases outcome <;> rfl

/-- A run that ends with a fault at once. -/
def fault (fault : Fault) : Run α := ofExcept (.error fault)

/-- The values that a run logs. -/
def logged (run : Run α) : List Value :=
  run.events.filterMap fun
    | .log value => some value
    | .lookup _ _ => none

/-- What a run asks the host for. -/
def lookups (run : Run α) : List (String × Option Nat) :=
  run.events.filterMap fun
    | .lookup name slot => some (name, slot)
    | .log _ => none

end Run

end JsonRules
