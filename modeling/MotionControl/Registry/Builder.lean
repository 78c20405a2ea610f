import MotionControl.Registry.Basic
import MotionControl.Settings.Defects

/-!
# Assembling the axis registry

A builder collects axes, one per index, and what they share. The registry it gives has an axis at
every index up to the last one collected, at least the smallest number of axes; the gaps are filled
with axes without motors.
-/

set_option autoImplicit false
set_option relaxedAutoImplicit false

namespace MotionControl

/-- A source of motor drivers, with a state of its own: asked for the driver of a motor, it may have
none. -/
abbrev DriverSource (σ D : Type) := σ → Place → MotorSettings → Option D × σ

/-- A registry under construction. -/
structure Builder (D : Type) where
  axes : Vector (Option (Axis D)) maxAxes := .replicate _ none
  homingRuns : Nat := 2
  disableDelay : Nat := 0
  disableLine : Option SharedLine := none
  resetLine : Option SharedLine := none
  deriving DecidableEq, Repr

namespace Builder

variable {σ D : Type}

/-- Puts an axis at its index, in place of any axis there. -/
def addAxis (builder : Builder D) (axis : Axis D) : Except AxisFault (Builder D) :=
  if fits : axis.index < maxAxes then
    .ok { builder with axes := builder.axes.set axis.index (some axis) fits }
  else .error (.axisOutOfRange axis.index)

/-- Sets the homing runs, moved into their range. -/
def withHomingRuns (builder : Builder D) (runs : Nat) : Builder D :=
  { builder with homingRuns := min (max runs homingRunsRange.1) homingRunsRange.2 }

/-! ### Axes from settings -/

/-- Mounts the motors of an axis's settings, slot by slot, with drivers from the source. -/
def mountMotors (source : DriverSource σ D) :
    List (Nat × Option MotorSettings) → Axis D → σ → Outcome σ MachineEvent (Except Fault (Axis D))
  | [], axis, supply => .still (.ok axis) supply
  | (_, none) :: rest, axis, supply => mountMotors source rest axis supply
  | (slot, some settings) :: rest, axis, supply =>
    let place : Place := ⟨axis.index, slot⟩
    match source supply place settings with
    | (none, supply) =>
      ⟨.error (ConfigFault.driverUnavailable axis.letter slot), supply, [.request place settings]⟩
    | (some driver, supply) =>
      match axis.withMotor slot (.ofSettings driver settings) with
      | .error fault => ⟨.error fault, supply, [.request place settings]⟩
      | .ok axis =>
        let mounted := mountMotors source rest axis supply
        { mounted with events := .request place settings :: mounted.events }

/-- Adds the axes that are configured, index by index. -/
def addAxes (source : DriverSource σ D) :
    List (Nat × Option AxisSettings) → Builder D → σ →
      Outcome σ MachineEvent (Except Fault (Builder D))
  | [], builder, supply => .still (.ok builder) supply
  | (_, none) :: rest, builder, supply => addAxes source rest builder supply
  | (index, some settings) :: rest, builder, supply =>
    let motors := settings.motors.toList.zipIdx.map Prod.swap
    let mounted := mountMotors source motors (.ofSettings index settings) supply
    match mounted.answer with
    | .error fault => { mounted with answer := .error fault }
    | .ok axis =>
      match builder.addAxis axis with
      | .error fault => { mounted with answer := .error fault }
      | .ok builder =>
        let added := addAxes source rest builder mounted.state
        { added with events := mounted.events ++ added.events }

/-- Takes over the settings of a machine, with drivers from the source. -/
def addSettings (builder : Builder D) (settings : MachineSettings) (source : DriverSource σ D)
    (supply : σ) : Outcome σ MachineEvent (Except Fault (Builder D)) :=
  let shared :=
    { builder.withHomingRuns settings.axes.homingRuns.toNat with
      disableDelay := settings.stepping.disableDelay.toNat }
  addAxes source (settings.axes.axes.toList.zipIdx.map Prod.swap) shared supply

/-! ### The registry -/

/-- How many axes the registry has: all up to the last one collected. -/
def axisCount (builder : Builder D) : Nat :=
  let present := builder.axes.toList.zipIdx.filter fun entry ↦ entry.1.isSome
  max minAxes (present.getLast?.elim 0 fun entry ↦ entry.2 + 1)

/-- The assembled registry. -/
def finish (builder : Builder D) : Registry .parsed D where
  axes := (builder.axes.toList.take builder.axisCount).zipIdx.map fun entry ↦
    entry.1.getD (.ofIndex entry.2)
  homingRuns := builder.homingRuns
  disableDelay := builder.disableDelay
  disableLine := builder.disableLine
  resetLine := builder.resetLine
  homingDirections := .empty

end Builder

end MotionControl
