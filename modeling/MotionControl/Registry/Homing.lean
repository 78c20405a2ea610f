import MotionControl.Registry.Basic
import MotionControl.Suppression

/-!
# Homing mode

Entering or leaving homing mode visits the places of the chosen axes in order. Steps of a place are
released before its driver is commanded, and the drivers that take part in homing are collected.
-/

set_option autoImplicit false
set_option relaxedAutoImplicit false

namespace MotionControl.Registry

variable {D : Type} [MotorDriver D]

/-- Commands the driver at a place to enter or leave homing mode; answers whether its motor takes
part in homing. -/
def setHomingAt (registry : Registry .ready D) (place : Place) (on : Bool)
    (suppression : Suppression) : Outcome (Registry .ready D) MachineEvent (Option Bool) :=
  match registry.motor? place with
  | none => .still none registry
  | some motor =>
    let (takesPart, driver) := MotorDriver.setHoming on motor.driver
    { answer := some takesPart
      state := registry.modifyAxis place.axis (Axis.setDriver · place.slot driver)
      events := [.driver place (.setHoming on (suppression.isBlocked place))] }

/-- Visits places one after the other; answers the motors that take part in homing. -/
def visitPlaces (on : Bool) :
    List Place → Registry .ready D → Suppression → MotorMask →
      Outcome (Registry .ready D × Suppression) MachineEvent MotorMask
  | [], registry, suppression, active => .still active (registry, suppression)
  | place :: rest, registry, suppression, active =>
    let released := suppression.unblock place
    let visited := registry.setHomingAt place on released
    let active := if visited.answer = some true then active.insert place else active
    let others := visitPlaces on rest visited.state released active
    { others with events := visited.events ++ others.events }

/-- The places of the axes of the mask. -/
def placesOf (registry : Registry .ready D) (mask : AxisMask) : List Place :=
  ((List.range registry.axes.length).filter mask.contains).flatMap Place.ofAxis

/-- Puts the motors of the axes into homing mode or out of it; answers those that take part in
homing. -/
def setHoming (registry : Registry .ready D) (mask : AxisMask) (on : Bool)
    (suppression : Suppression) :
    Outcome (Registry .ready D × Suppression) MachineEvent MotorMask :=
  let visited := visitPlaces on (registry.placesOf mask) registry suppression .empty
  { visited with
    events := visited.events ++ [.log (.homingMode on mask visited.answer)] }

end MotionControl.Registry
