import MotionControl.Mask.Motor

/-!
# Suppressed steps

The motors whose steps are withheld. A step request is filtered down to the motors that are not
suppressed.
-/

set_option autoImplicit false
set_option relaxedAutoImplicit false

namespace MotionControl

/-- The motors whose steps are withheld. -/
structure Suppression where
  motors : MotorMask
  deriving DecidableEq, Repr

namespace Suppression

/-- No motor is suppressed. -/
def empty : Suppression := ⟨.empty⟩

def block (suppression : Suppression) (place : Place) : Suppression :=
  ⟨suppression.motors.insert place⟩

def unblock (suppression : Suppression) (place : Place) : Suppression :=
  ⟨suppression.motors.erase place⟩

def blockAll (suppression : Suppression) (motors : MotorMask) : Suppression :=
  ⟨suppression.motors.union motors⟩

def isBlocked (suppression : Suppression) (place : Place) : Bool :=
  suppression.motors.contains place

/-- The requested motors that may step. -/
def filter (suppression : Suppression) (steps : MotorMask) : MotorMask :=
  steps.diff suppression.motors

end Suppression

end MotionControl
