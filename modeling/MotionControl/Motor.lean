import MotionControl.Settings.Basic

/-!
# Motors and their drivers

A driver switches a motor on and off and into homing mode; what else it does is its own affair. A
motor of an axis is a driver with the limit behaviour of the motor.
-/

set_option autoImplicit false
set_option relaxedAutoImplicit false

namespace MotionControl

/-- What motor drivers of a type do when they are commanded. -/
class MotorDriver (D : Type) where
  /-- Brings the driver up. -/
  init : D → D := id
  /-- Configures the motor once all drivers are up. -/
  configure : D → D := id
  setDisable : Bool → D → D
  /-- Enters or leaves homing mode; answers whether the motor takes part in homing. -/
  setHoming : Bool → D → Bool × D
  name : D → String := fun _ ↦ "motor"

/-- A driver without a motor behind it, which never takes part in homing. -/
structure NullMotor where
  deriving DecidableEq, Repr

instance : MotorDriver NullMotor where
  setDisable _ driver := driver
  setHoming _ driver := (false, driver)
  name _ := "null_motor"

/-- A motor of an axis. -/
structure Motor (D : Type) where
  driver : D
  hardLimits : Bool
  pulloff : Length
  deriving DecidableEq, Repr

namespace Motor

variable {D : Type}

def ofSettings (driver : D) (settings : MotorSettings) : Motor D :=
  ⟨driver, settings.hardLimits, settings.pulloff⟩

/-- A motor with the settings that hold by default. -/
def ofDriver (driver : D) : Motor D := ofSettings driver {}

end Motor

end MotionControl
