import MotionControl.Log
import MotionControl.Outcome

/-!
# Timer peripherals

A timer peripheral raises interrupts at a frequency while its interrupt is enabled. It is known by
its tag, and commands to it are events that name the tag. Not every peripheral has a counter that
can be reset; without one, a reset reaches nothing.
-/

set_option autoImplicit false
set_option relaxedAutoImplicit false

namespace MotionControl

/-- A command to a timer peripheral. -/
inductive PeripheralCommand
  | setFrequency (hertz : Nat)
  | resume
  | pause
  | resetCount
  deriving DecidableEq, Repr

/-- A timer peripheral. -/
structure Peripheral where
  tag : Nat
  hasCounter : Bool
  frequency : Nat := 0
  /-- Whether its interrupt is enabled. -/
  enabled : Bool := false
  /-- How often its counter was reset. -/
  resets : Nat := 0
  deriving DecidableEq, Repr

def Peripheral.obey (peripheral : Peripheral) : PeripheralCommand → Peripheral
  | .setFrequency hertz => { peripheral with frequency := hertz }
  | .resume => { peripheral with enabled := true }
  | .pause => { peripheral with enabled := false }
  | .resetCount => { peripheral with resets := peripheral.resets + 1 }

/-- What step timers and engines do to their surroundings. Callbacks are told apart by values of
`κ`. -/
inductive PulseEvent (κ : Type)
  | command (tag : Nat) (command : PeripheralCommand)
  | callback (callback : κ)
  | log (entry : LogEntry)
  deriving DecidableEq, Repr

end MotionControl
