import MotionControl.Registry.Basic
import MotionControl.Registry.Command

/-!
# Bringing the registry up

The reset line is driven high first; if that fails, no driver is commanded. Then the axes are passed
over twice: the first time the drivers of each axis are brought up, the second time its motors are
configured.
-/

set_option autoImplicit false
set_option relaxedAutoImplicit false

namespace MotionControl.Registry

variable {D : Type} [MotorDriver D]

/-- What is reported of an axis before its drivers are brought up. -/
def axisReport (axis : Axis D) : MachineEvent :=
  .log (.axisTravel axis.letter axis.travelLimits.1.mm axis.travelLimits.2.mm)

/-- Brings the drivers of axes up, one axis after the other; adds those that are homed towards the
negative end of their travel to a mask. -/
def initAxes : List (Axis D) → AxisMask → Outcome (List (Axis D)) MachineEvent AxisMask
  | [], negative => .still negative []
  | axis :: rest, negative =>
    let up := axis.commandAll .init
    let negative :=
      if up.state.homesNegative then negative.insert up.state.index else negative
    let others := initAxes rest negative
    { answer := others.answer
      state := up.state :: others.state
      events := axisReport axis :: up.events ++ others.events }

/-- Configures the motors of axes, one axis after the other. -/
def configureAxes : List (Axis D) → Outcome (List (Axis D)) MachineEvent Unit
  | [] => .still () []
  | axis :: rest =>
    let configured := axis.commandAll .configure
    let others := configureAxes rest
    { answer := ()
      state := configured.state :: others.state
      events := configured.events ++ others.events }

/-- Brings an assembled registry up; beside the result there is what happened, in order. -/
def bringUp (registry : Registry .parsed D) :
    Except AxisFault (Registry .ready D) × List MachineEvent :=
  let released := SharedOutput.reset.drive true registry.resetLine
  let opening : List MachineEvent :=
    .log (.axisCount registry.axes.length) ::
      (if registry.disableLine.isSome then [.log .sharedDisable] else []) ++ released.events
  if released.answer then
    let up := initAxes registry.axes .empty
    let configured := configureAxes up.state
    (.ok {
        axes := configured.state
        homingRuns := registry.homingRuns
        disableDelay := registry.disableDelay
        disableLine := registry.disableLine
        resetLine := released.state
        homingDirections := up.answer },
      opening ++ (if registry.resetLine.isSome then [.log .sharedReset] else []) ++ up.events ++
        configured.events)
  else (.error .line, opening)

end MotionControl.Registry
