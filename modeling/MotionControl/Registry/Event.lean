import MotionControl.Log
import MotionControl.Outcome
import MotionControl.Settings.Basic

/-!
# Events of the axis registry

What the registry does to its surroundings: it commands motor drivers, writes two output lines that
all drivers share, asks for drivers, and waits.
-/

set_option autoImplicit false
set_option relaxedAutoImplicit false

namespace MotionControl

/-- A command to a motor driver. -/
inductive DriverCommand
  | init
  | configure
  | setDisable (disable : Bool)
  /-- A change of homing mode, with whether the steps of the motor were suppressed then. -/
  | setHoming (on : Bool) (blocked : Bool)
  deriving DecidableEq, Repr

/-- An output line that all motor drivers share. -/
inductive SharedOutput
  | disable
  | reset
  deriving DecidableEq, Repr

/-- What the registry does to its surroundings. -/
inductive MachineEvent
  | driver (place : Place) (command : DriverCommand)
  | write (output : SharedOutput) (high : Bool) (failed : Bool)
  /-- A request for the driver of a configured motor. -/
  | request (place : Place) (settings : MotorSettings)
  | delay (microseconds : Nat)
  | log (entry : LogEntry)
  deriving DecidableEq, Repr

/-- What an output line is connected to. -/
inductive SharedLine
  /-- A pin; the list says which of the coming writes fail, and writes beyond it succeed. -/
  | wired (failures : List Bool)
  /-- Nothing; writes succeed without effect. -/
  | unconnected
  deriving DecidableEq, Repr

/-- Drives an output high or low, if the machine has a line for it; answers whether that
succeeded. -/
def SharedOutput.drive (output : SharedOutput) (high : Bool) :
    Option SharedLine → Outcome (Option SharedLine) MachineEvent Bool
  | none => .still true none
  | some .unconnected => .still true (some .unconnected)
  | some (.wired failures) =>
    let failed := failures.headD false
    ⟨!failed, some (.wired failures.tail), [.write output high failed]⟩

end MotionControl
