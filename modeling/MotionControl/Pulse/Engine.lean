import MotionControl.Pulse.Timer

/-!
# The step engine

A step engine is a step timer behind a gate. While the gate is open, timing, start and stop requests
reach the timer; while it is closed they are accepted and dropped. Closing an open gate stops the
timer, and setting the engine up leaves the gate closed.
-/

set_option autoImplicit false
set_option relaxedAutoImplicit false

namespace MotionControl

/-- A step timer behind a gate. -/
structure StepEngine (κ : Type) where
  timer : StepTimer κ := {}
  /-- Whether the gate is open. -/
  enabled : Bool := false
  deriving DecidableEq, Repr

namespace StepEngine

variable {κ α : Type}

/-- The outcome of an operation on a step engine. -/
abbrev Result (κ α : Type) := Outcome (StepEngine κ) (PulseEvent κ) α

/-- An operation on the timer behind the gate, whether or not the gate is open. -/
def onTimer (engine : StepEngine κ) (operation : StepTimer κ → StepTimer.Result κ α) :
    Result κ α :=
  let outcome := operation engine.timer
  ⟨outcome.answer, { engine with timer := outcome.state }, outcome.events⟩

/-- Closes the gate and sets the timer up. -/
def init (engine : StepEngine κ) (peripheral : Peripheral) (settings : SteppingSettings)
    (callback : κ) : Result κ (Except TimerFault Unit) :=
  { engine with enabled := false }.onTimer fun timer ↦ timer.initFrom peripheral settings callback

/-- Opens the gate. -/
def enable (engine : StepEngine κ) : Result κ (Except TimerFault Unit) :=
  if !engine.timer.isInitialized then .still (.error .notInitialized) engine
  else
    { answer := .ok ()
      state := { engine with enabled := true }
      events := if engine.enabled then [] else [.log .engineEnabled] }

/-- Closes the gate; if it was open, the timer stops. -/
def disable (engine : StepEngine κ) : Result κ Unit :=
  if engine.enabled then
    let stopped := { engine with enabled := false }.onTimer StepTimer.stop
    { stopped with events := stopped.events ++ [.log .engineDisabled] }
  else .still () engine

/-- Asks the timer for a number of base ticks, if the gate is open. -/
def setTiming (engine : StepEngine κ) (ticks : Nat) : Result κ (Except TimerFault Unit) :=
  if engine.enabled then engine.onTimer fun timer ↦ timer.setTicks ticks
  else .still (.ok ()) engine

/-- Starts the timer, if the gate is open. -/
def start (engine : StepEngine κ) : Result κ (Except TimerFault Unit) :=
  if engine.enabled then engine.onTimer StepTimer.start else .still (.ok ()) engine

/-- Stops the timer, if the gate is open. -/
def stop (engine : StepEngine κ) : Result κ Unit :=
  if engine.enabled then engine.onTimer StepTimer.stop else .still () engine

end StepEngine

end MotionControl
