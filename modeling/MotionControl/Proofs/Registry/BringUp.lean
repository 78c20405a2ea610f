import MotionControl.Proofs.Registry.Reach
import MotionControl.Registry.BringUp

/-!
# What bringing up comes to

Bringing a registry up passes over its axes twice. What the two passes come to is known in closed
form: together they change every driver in the same way, and their commands go to the places of the
motors in order, first all commands of the one pass and then all of the other
(`Registry.bringUp_eq`).
-/

set_option autoImplicit false
set_option relaxedAutoImplicit false

namespace MotionControl.Registry

variable {D : Type}

/-- The axes that are homed towards the negative end of their travel. -/
def negativeHomes (axes : List (Axis D)) : AxisMask :=
  axes.foldl (fun mask axis ↦ if axis.homesNegative then mask.insert axis.index else mask) .empty

/-- The registry at another stage. -/
def atStage {before : Stage} (after : Stage) (registry : Registry before D) : Registry after D where
  axes := registry.axes
  homingRuns := registry.homingRuns
  disableDelay := registry.disableDelay
  disableLine := registry.disableLine
  resetLine := registry.resetLine
  homingDirections := registry.homingDirections

/-- What happens before any driver is commanded. -/
def opening (assembled : Registry .parsed D) : List MachineEvent :=
  .log (.axisCount assembled.axes.length) ::
    (if assembled.disableLine.isSome then [.log .sharedDisable] else []) ++
      (SharedOutput.reset.drive true assembled.resetLine).events

variable [MotorDriver D]

/-- The first pass. What it reports and whether an axis goes into the mask does not depend on the
drivers, so it is as well read off the axes from before the pass. -/
theorem initAxes_eq (axes : List (Axis D)) (negative : AxisMask) :
    initAxes axes negative =
      { answer := axes.foldl
          (fun mask axis ↦ if axis.homesNegative then mask.insert axis.index else mask) negative
        state := axes.map (Axis.mapDrivers · MotorDriver.init)
        events := axes.flatMap fun axis ↦
          axisReport axis :: axis.places.map (MachineEvent.driver · .init) } := by
  induction axes generalizing negative with
  | nil => rfl
  | cons axis axes ih =>
    have hindex : (axis.mapDrivers DriverCommand.init.apply).index = axis.index := rfl
    have hnegative : (axis.mapDrivers DriverCommand.init.apply).homesNegative =
        axis.homesNegative := rfl
    rw [initAxes, Axis.commandAll_eq, ih, hindex, hnegative]
    rfl

/-- The second pass. -/
theorem configureAxes_eq (axes : List (Axis D)) :
    configureAxes axes =
      { answer := ()
        state := axes.map (Axis.mapDrivers · MotorDriver.configure)
        events := axes.flatMap fun axis ↦
          axis.places.map (MachineEvent.driver · .configure) } := by
  induction axes with
  | nil => rfl
  | cons axis axes ih =>
    rw [configureAxes, Axis.commandAll_eq, ih]
    rfl

/-- Only the reset line can fail. If it does not, every driver is brought up and configured. -/
theorem bringUp_eq (assembled : Registry .parsed D) :
    assembled.bringUp =
      if (SharedOutput.reset.drive true assembled.resetLine).answer then
        (.ok { ((assembled.mapDrivers MotorDriver.init).mapDrivers
                MotorDriver.configure).atStage .ready with
            resetLine := (SharedOutput.reset.drive true assembled.resetLine).state
            homingDirections := negativeHomes assembled.axes },
          assembled.opening ++
            (if assembled.resetLine.isSome then [.log .sharedReset] else []) ++
            (assembled.axes.flatMap fun axis ↦
              axisReport axis :: axis.places.map (MachineEvent.driver · .init)) ++
            assembled.places.map (MachineEvent.driver · .configure))
      else (.error .line, assembled.opening) := by
  have hplaces : ((assembled.axes.map (Axis.mapDrivers · MotorDriver.init)).flatMap fun axis ↦
        axis.places.map (MachineEvent.driver · .configure)) =
      assembled.places.map (MachineEvent.driver · .configure) := by
    rw [List.flatMap_map, places, List.map_flatMap]
    simp only [Axis.places_mapDrivers]
  simp only [bringUp, initAxes_eq, configureAxes_eq, hplaces]
  rfl

theorem bringUp_eq_ok {assembled : Registry .parsed D} {registry : Registry .ready D}
    (h : assembled.bringUp.1 = .ok registry) :
    registry = { ((assembled.mapDrivers MotorDriver.init).mapDrivers
          MotorDriver.configure).atStage .ready with
        resetLine := (SharedOutput.reset.drive true assembled.resetLine).state
        homingDirections := negativeHomes assembled.axes } := by
  rw [bringUp_eq] at h
  split at h
  · cases h
    rfl
  · cases h

end MotionControl.Registry
