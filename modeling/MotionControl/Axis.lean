import MotionControl.Fault
import MotionControl.Motor

/-!
# Axes

An axis knows its own index, carries up to two motors in numbered slots, and has the resolution,
rates, travel and homing of its settings.
-/

set_option autoImplicit false
set_option relaxedAutoImplicit false

namespace MotionControl

/-- An axis with motor drivers of the type `D`. -/
structure Axis (D : Type) where
  index : Nat
  motors : Vector (Option (Motor D)) slotsPerAxis
  homing : Option HomingSettings
  stepsPerMm : Single
  maxRate : FeedRate
  acceleration : Acceleration
  maxTravel : Length
  deriving DecidableEq, Repr

namespace Axis

variable {D : Type}

/-- An axis with the given settings, and no motors yet. -/
def ofSettings (index : Nat) (settings : AxisSettings) : Axis D where
  index
  motors := .replicate _ none
  homing := settings.homing
  stepsPerMm := settings.stepsPerMm
  maxRate := settings.maxRate
  acceleration := settings.acceleration
  maxTravel := settings.maxTravel

/-- An axis with the settings that hold by default, and no motors. -/
def ofIndex (index : Nat) : Axis D := ofSettings index {}

/-- Puts a motor into a slot, in place of any motor there. -/
def withMotor (axis : Axis D) (slot : Nat) (motor : Motor D) : Except AxisFault (Axis D) :=
  if fits : slot < slotsPerAxis then
    .ok { axis with motors := axis.motors.set slot (some motor) fits }
  else .error (.slotOutOfRange slot)

def withHoming (axis : Axis D) (homing : HomingSettings) : Axis D :=
  { axis with homing := some homing }

def letter (axis : Axis D) : Char := axisLetter axis.index

/-- The motor in a slot, if there is one. -/
def motor? (axis : Axis D) (slot : Nat) : Option (Motor D) := axis.motors[slot]?.join

/-- The slots that hold a motor, ascending. -/
def occupied (axis : Axis D) : List Nat :=
  (List.range slotsPerAxis).filter fun slot ↦ (axis.motor? slot).isSome

/-- The places of the motors of the axis. -/
def places (axis : Axis D) : List Place := axis.occupied.map (Place.mk axis.index)

/-- The motors of the axis, in slot order. -/
def motorList (axis : Axis D) : List (Motor D) := axis.motors.toList.filterMap id

/-- Whether any motor of the axis applies hard limits. -/
def hardLimits (axis : Axis D) : Bool := axis.motorList.any Motor.hardLimits

/-- Whether the axis is homed towards the negative end of its travel. -/
def homesNegative (axis : Axis D) : Bool := axis.homing.any fun homing ↦ !homing.positiveDirection

/-- The step rate in steps per second at the highest feed rate. -/
def maxStepRate (axis : Axis D) : Single := axis.maxRate.perSecond * axis.stepsPerMm

/-- The lowest and the highest position. The position after homing is the end that the axis is homed
to. -/
def travelLimits (axis : Axis D) : Length × Length :=
  let home := axis.homing.elim ⟨0⟩ HomingSettings.position
  if axis.homesNegative then (home, home + axis.maxTravel) else (home - axis.maxTravel, home)

/-- Changes the driver in a slot, if there is one. -/
def setDriver (axis : Axis D) (slot : Nat) (driver : D) : Axis D :=
  { axis with
    motors := axis.motors.setIfInBounds slot
      ((axis.motor? slot).map fun motor ↦ { motor with driver }) }

end Axis

/-- A driver, with the place where it is mounted, if it is mounted anywhere. Two drivers may do the
same, so a driver is recognised by its place. -/
structure DriverRef (D : Type) where
  driver : D
  place : Option Place

/-- The slot of the axis in which the driver is mounted. -/
def Axis.slotOf? {D : Type} (axis : Axis D) (ref : DriverRef D) : Option Nat :=
  axis.occupied.find? fun slot ↦ ref.place == some ⟨axis.index, slot⟩

/-- Whether the driver is mounted on the axis. -/
def Axis.has {D : Type} (axis : Axis D) (ref : DriverRef D) : Bool := (axis.slotOf? ref).isSome

end MotionControl
