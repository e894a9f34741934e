/-! Code as a sequence of assignments and events, for an observer who sees the
state at each event. What an event itself does to the state is a parameter;
states and events are arbitrary. -/
namespace ArenaClient
variable {S E : Type _}

inductive Statement (S E : Type _) where
  | assign (update : S → S)
  | raise (event : E)

/-- A state, with the events so far and the state at each of them. -/
structure Observed (S E : Type _) where
  state : S
  trace : List (E × S) := []

namespace Observed
variable (notify : S → E → S)

def run (observed : Observed S E) : Statement S E → Observed S E
  | .assign update => { observed with state := update observed.state }
  | .raise event =>
    { state := notify observed.state event, trace := observed.trace ++ [(event, observed.state)] }

def execute (observed : Observed S E) (statements : List (Statement S E)) : Observed S E :=
  statements.foldl (run notify) observed

@[simp] theorem execute_nil (observed : Observed S E) : observed.execute notify [] = observed := rfl

@[simp] theorem execute_cons (observed : Observed S E) (statement : Statement S E)
    (statements : List (Statement S E)) :
    observed.execute notify (statement :: statements) =
      (observed.run notify statement).execute notify statements := rfl

end Observed
end ArenaClient
