/-!
State machines driven by a table. An action names the state it enters; what is run there may ask
for a further action, and leaves less work than it found, so that every run ends.
-/

namespace AdFilter.Scriptlet

/-- The states of a machine. -/
inductive State
  | init
  | betweenParams
  | inParam
  | close
  | error
  deriving DecidableEq

/-- An entry of a table: what is run when an action arrives in a state. -/
structure Transition (C : Type) (work : State → C → Nat) where
  source : State
  action : State
  /-- The next action, if any, and what the context has become. -/
  handler : C → Option State × C
  progress : ∀ context next after, handler context = (some next, after) →
    work next after < work action context

/-- The entry of a final state, which asks for nothing. -/
def Transition.halt {C : Type} {work : State → C → Nat} (source action : State) :
    Transition C work where
  source
  action
  handler context := (none, context)
  progress := by simp

/-- An entry is meant for the state and the action. -/
def Transition.fits {C : Type} {work : State → C → Nat} (entry : Transition C work)
    (state action : State) : Bool :=
  entry.source == state && entry.action == action

/-- Carries out an action and those that follow from it. An action without an entry for the state
is dropped, and the machine stays where it is. -/
def dispatch {C : Type} {work : State → C → Nat} (table : List (Transition C work))
    (state action : State) (context : C) : State × C :=
  match _found : table.find? (·.fits state action) with
  | none => (state, context)
  | some entry =>
    match _reply : entry.handler context with
    | (none, after) => (action, after)
    | (some next, after) => dispatch table action next after
termination_by work action context
decreasing_by
  -- The entry that was found is one for this very action.
  have fits := List.find?_some (by assumption : table.find? (·.fits state action) = some entry)
  simp only [Transition.fits, Bool.and_eq_true, beq_iff_eq] at fits
  exact fits.2 ▸ entry.progress context next after (by assumption)

/-- A run from the start, and whether it came to its end in good order. -/
def run {C : Type} {work : State → C → Nat} (table : List (Transition C work)) (action : State)
    (context : C) : State × C :=
  dispatch table .init action context

end AdFilter.Scriptlet
