import MotionControl.Place
import MotionControl.Quantity
import MotionControl.Settings.Pin

/-!
# Machine settings

The settings of a machine, by section: the step pulses, the axes and what they share, and for each
axis its resolution, rates and travel, how it is homed, and its motors. The values given here are
the ones that hold when a section is left out as a whole.
-/

set_option autoImplicit false
set_option relaxedAutoImplicit false

namespace MotionControl

/-- How step pulses are made. Times are in microseconds unless the name says otherwise. -/
structure SteppingSettings where
  pulseWidth : UInt32 := 4
  directionDelay : UInt32 := 0
  /-- How long motors take to be ready after they are enabled. -/
  disableDelay : UInt32 := 0
  /-- Milliseconds without motion after which motors are disabled. -/
  idleTime : UInt32 := 255
  segments : UInt32 := 12
  /-- The base frequency of the step timer in hertz. -/
  timerFrequency : UInt32 := 1000000
  deriving DecidableEq, Repr

/-- The idle time that means never. -/
def idleForever : UInt32 := 255

/-- The idle time after which motors are disabled, if they ever are. -/
def SteppingSettings.idleDisableAfter (settings : SteppingSettings) : Option UInt32 :=
  if settings.idleTime = idleForever then none else some settings.idleTime

/-- How an axis finds its limit switch. -/
structure HomingSettings where
  /-- The cycle in which the axis is homed, if any. -/
  cycle : Option UInt8 := none
  positiveDirection : Bool := true
  /-- The position of the axis once it is homed. -/
  position : Length := ⟨0⟩
  feedRate : FeedRate := ⟨50⟩
  seekRate : FeedRate := ⟨200⟩
  /-- Milliseconds to rest after each approach. -/
  settleTime : UInt32 := 250
  seekScaler : Single := 1.1
  feedScaler : Single := 1.1
  allowSingleAxis : Bool := true
  deriving DecidableEq, Repr

/-- Whether the axis takes part in any homing cycle. -/
def HomingSettings.isEnabled (settings : HomingSettings) : Bool := settings.cycle.isSome

/-- One motor of an axis. -/
structure MotorSettings where
  hardLimits : Bool := true
  /-- How far the motor backs off its limit switch. -/
  pulloff : Length := ⟨1⟩
  limitNegativePin : Pin := .unwired
  limitPositivePin : Pin := .unwired
  limitAllPin : Pin := .unwired
  deriving DecidableEq, Repr

/-- Whether the motor has a limit switch on any pin. -/
def MotorSettings.hasLimitSwitch (settings : MotorSettings) : Bool :=
  settings.limitNegativePin.isDefined || settings.limitPositivePin.isDefined ||
    settings.limitAllPin.isDefined

/-- One axis. -/
structure AxisSettings where
  stepsPerMm : Single := 80
  maxRate : FeedRate := ⟨1000⟩
  acceleration : Acceleration := ⟨25⟩
  maxTravel : Length := ⟨1000⟩
  homing : Option HomingSettings := none
  motors : Vector (Option MotorSettings) slotsPerAxis := .replicate _ none
  deriving DecidableEq, Repr

/-- The axes and what they share. -/
structure AxesSettings where
  disablePin : Pin := .unwired
  resetPin : Pin := .unwired
  /-- How often an axis approaches its limit switch. -/
  homingRuns : UInt32 := 2
  axes : Vector (Option AxisSettings) maxAxes := .replicate _ none
  deriving DecidableEq, Repr

namespace AxesSettings

/-- The settings of the axis of an index, if it is configured. -/
def axis? (settings : AxesSettings) (index : Nat) : Option AxisSettings :=
  settings.axes[index]?.join

/-- How many axes are configured. -/
def configuredCount (settings : AxesSettings) : Nat :=
  settings.axes.toList.countP Option.isSome

end AxesSettings

/-- The settings of a whole machine. -/
structure MachineSettings where
  stepping : SteppingSettings := {}
  axes : AxesSettings := {}
  deriving DecidableEq, Repr

end MotionControl
