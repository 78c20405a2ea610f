/-!
# Outcomes

An operation on a state answers, leaves a new state, and does something to its surroundings. What it
does is a list of events in the order in which they happen.
-/

set_option autoImplicit false
set_option relaxedAutoImplicit false

namespace MotionControl

/-- The outcome of an operation: its answer, the new state and what happened, in order. -/
structure Outcome (σ ε α : Type) where
  answer : α
  state : σ
  events : List ε

/-- The outcome of an operation that does nothing. -/
def Outcome.still {σ ε α : Type} (answer : α) (state : σ) : Outcome σ ε α := ⟨answer, state, []⟩

end MotionControl
