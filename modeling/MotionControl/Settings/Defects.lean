import MotionControl.Fault
import MotionControl.Settings.Basic

/-!
# Defects of machine settings

The settings of a machine are usable if counts that must not vanish do not, the homing runs are in
their range, and the numbers that measure something are finite and of the right sign. `defects`
lists what is wrong in the order of reporting; the first defect is the one that is reported.
-/

set_option autoImplicit false
set_option relaxedAutoImplicit false

namespace MotionControl

/-- The fewest and the most homing runs. -/
def homingRunsRange : Nat × Nat := (1, 5)

/-- Finite and above zero. -/
def Binary.isUsable {F : BinaryFormat} (x : Binary F) : Bool := x.isFinite && x.isPositive

/-- Finite and not below zero. -/
def Binary.isDistance {F : BinaryFormat} (x : Binary F) : Bool := x.isFinite && x.isNonnegative

/-- Finite and above one. -/
def Binary.isScaler {F : BinaryFormat} (x : Binary F) : Bool :=
  x.isFinite && Binary.order? x 1 == some .gt

/-- The fault, unless the condition holds. -/
def defectUnless (holds : Bool) (fault : ConfigFault) : List ConfigFault :=
  if holds then [] else [fault]

def SteppingSettings.defects (settings : SteppingSettings) : List ConfigFault :=
  defectUnless (settings.pulseWidth != 0) (.pulseWidth settings.pulseWidth.toNat) ++
    defectUnless (settings.timerFrequency != 0) (.timerFrequency settings.timerFrequency.toNat)

def HomingSettings.defects (letter : Char) (settings : HomingSettings) : List ConfigFault :=
  let rate (rate : FeedRate) : List ConfigFault :=
    defectUnless rate.mmPerMinute.isUsable (.homingRate letter rate.mmPerMinute)
  let scaler (value : Single) : List ConfigFault :=
    defectUnless value.isScaler (.homingScaler letter value)
  rate settings.feedRate ++ rate settings.seekRate ++ scaler settings.seekScaler ++
    scaler settings.feedScaler

def MotorSettings.defects (letter : Char) (slot : Nat) (settings : MotorSettings) :
    List ConfigFault :=
  defectUnless settings.pulloff.mm.isDistance (.pulloff letter slot settings.pulloff.mm)

/-- The defects of the sections that are present, each with its index. -/
def presentDefects {α : Type} (sections : List (Option α)) (defects : Nat → α → List ConfigFault) :
    List ConfigFault :=
  sections.zipIdx.flatMap fun entry ↦ (entry.1.map (defects entry.2)).getD []

def AxisSettings.defects (letter : Char) (settings : AxisSettings) : List ConfigFault :=
  defectUnless settings.stepsPerMm.isUsable (.stepsPerMm letter settings.stepsPerMm) ++
    defectUnless settings.maxRate.mmPerMinute.isUsable
      (.maxRate letter settings.maxRate.mmPerMinute) ++
    defectUnless settings.acceleration.mmPerSecondSquared.isUsable
      (.acceleration letter settings.acceleration.mmPerSecondSquared) ++
    defectUnless settings.maxTravel.mm.isDistance (.maxTravel letter settings.maxTravel.mm) ++
    (settings.homing.map (HomingSettings.defects letter)).getD [] ++
    presentDefects settings.motors.toList (MotorSettings.defects letter)

def AxesSettings.defects (settings : AxesSettings) : List ConfigFault :=
  defectUnless
      (homingRunsRange.1 ≤ settings.homingRuns.toNat &&
        settings.homingRuns.toNat ≤ homingRunsRange.2)
      (.homingRuns settings.homingRuns.toNat) ++
    presentDefects settings.axes.toList fun index ↦ AxisSettings.defects (axisLetter index)

namespace MachineSettings

/-- All defects, in the order of reporting. -/
def defects (settings : MachineSettings) : List ConfigFault :=
  settings.stepping.defects ++ settings.axes.defects

/-- Accepts usable settings, and reports the first defect of others. -/
def validate (settings : MachineSettings) : Except ConfigFault Unit :=
  match settings.defects with
  | [] => .ok ()
  | defect :: _ => .error defect

end MachineSettings

end MotionControl
