import MotionControl.Axis
import MotionControl.Registry.Event

/-!
# Commands to the drivers of an axis

The drivers of an axis are commanded one after the other, in slot order. A command that reaches a
driver is an event, and it is the driver's own answer to the command that takes the place of the
driver.
-/

set_option autoImplicit false
set_option relaxedAutoImplicit false

namespace MotionControl

variable {D : Type} [MotorDriver D]

/-- What a command makes of a driver. -/
def DriverCommand.apply : DriverCommand → D → D
  | init => MotorDriver.init
  | configure => MotorDriver.configure
  | setDisable disable => MotorDriver.setDisable disable
  | setHoming on _ => fun driver ↦ (MotorDriver.setHoming on driver).2

namespace Axis

/-- Commands the driver in a slot, if there is one. -/
def commandSlot (axis : Axis D) (command : DriverCommand) (slot : Nat) :
    Outcome (Axis D) MachineEvent Unit :=
  match axis.motor? slot with
  | none => .still () axis
  | some motor =>
    { answer := ()
      state := axis.setDriver slot (command.apply motor.driver)
      events := [.driver ⟨axis.index, slot⟩ command] }

/-- Commands the drivers in some slots, one after the other. -/
def commandSlots (command : DriverCommand) :
    List Nat → Axis D → Outcome (Axis D) MachineEvent Unit
  | [], axis => .still () axis
  | slot :: rest, axis =>
    let first := axis.commandSlot command slot
    let others := commandSlots command rest first.state
    { others with events := first.events ++ others.events }

/-- Commands all drivers of the axis. -/
def commandAll (axis : Axis D) (command : DriverCommand) : Outcome (Axis D) MachineEvent Unit :=
  commandSlots command (List.range slotsPerAxis) axis

end Axis

end MotionControl
