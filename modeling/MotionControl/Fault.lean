import MotionControl.Binary.Shortest

/-!
# Faults

What can go wrong in a machine's configuration, in its axis registry and in its step timer, each
fault with the data that its text shows.
-/

set_option autoImplicit false
set_option relaxedAutoImplicit false

namespace MotionControl

/-- A fault of the configuration. The letter is that of the axis that was configured. -/
inductive ConfigFault
  /-- The text is not a configuration. -/
  | unreadable (reason : String)
  | homingRuns (runs : Nat)
  | stepsPerMm (axis : Char) (value : Single)
  | maxRate (axis : Char) (value : Single)
  | acceleration (axis : Char) (value : Single)
  | maxTravel (axis : Char) (value : Single)
  | homingRate (axis : Char) (value : Single)
  | homingScaler (axis : Char) (value : Single)
  | pulloff (axis : Char) (slot : Nat) (value : Single)
  | pulseWidth (microseconds : Nat)
  | timerFrequency (hertz : Nat)
  /-- No driver could be had for a configured motor. -/
  | driverUnavailable (axis : Char) (slot : Nat)
  /-- The file could not be read. -/
  | unavailable (reason : String)
  deriving DecidableEq, Repr

/-- A fault of the axis registry. -/
inductive AxisFault
  /-- A shared output line could not be driven. -/
  | line
  | axisOutOfRange (axis : Nat)
  | slotOutOfRange (slot : Nat)
  deriving DecidableEq, Repr

/-- A misuse of the step timer. -/
inductive TimerFault
  | notInitialized
  | zeroTicks
  | zeroFrequency
  deriving DecidableEq, Repr

/-- A fault of any part. -/
inductive Fault
  | config (fault : ConfigFault)
  | axis (fault : AxisFault)
  | timer (fault : TimerFault)
  deriving DecidableEq, Repr

def ConfigFault.text : ConfigFault → String
  | unreadable reason => s!"Parse error: {reason}"
  | homingRuns runs => s!"Invalid homing runs: {runs}. Must be 1-5"
  | stepsPerMm axis value => s!"Axis {axis}: invalid steps per mm {value.text}. Must be > 0"
  | maxRate axis value => s!"Axis {axis}: invalid max rate {value.text}. Must be > 0"
  | acceleration axis value => s!"Axis {axis}: invalid acceleration {value.text}. Must be > 0"
  | maxTravel axis value => s!"Axis {axis}: invalid max travel {value.text}. Must be >= 0"
  | homingRate axis value => s!"Axis {axis}: invalid homing rate {value.text}. Must be > 0"
  | homingScaler axis value => s!"Axis {axis}: invalid homing scaler {value.text}. Must be > 1.0"
  | pulloff axis slot value =>
    s!"Axis {axis} motor {slot}: invalid pulloff {value.text}. Must be >= 0"
  | pulseWidth microseconds => s!"Invalid step pulse width: {microseconds}us. Must be > 0"
  | timerFrequency hertz => s!"Invalid step timer frequency: {hertz}Hz. Must be > 0"
  | driverUnavailable axis slot => s!"No driver available for axis {axis} motor {slot}"
  | unavailable reason => s!"I/O error: {reason}"

def AxisFault.text : AxisFault → String
  | line => "Shared stepper pin operation failed"
  | axisOutOfRange axis => s!"Axis index {axis} out of range"
  | slotOutOfRange slot => s!"Motor slot {slot} out of range"

def TimerFault.text : TimerFault → String
  | notInitialized => "Step timer not initialized"
  | zeroTicks => "Step timer ticks must be > 0"
  | zeroFrequency => "Step timer frequency must be > 0"

def Fault.text : Fault → String
  | config fault => s!"Configuration error: {fault.text}"
  | axis fault => s!"Axis error: {fault.text}"
  | timer fault => s!"Step timer error: {fault.text}"

instance : Coe ConfigFault Fault := ⟨.config⟩
instance : Coe AxisFault Fault := ⟨.axis⟩
instance : Coe TimerFault Fault := ⟨.timer⟩

/-- The most bytes that the reason of a fault can take. -/
def reasonCapacity : Nat := 128

/-- A reason that is too long is dropped as a whole, never cut. -/
def boundedReason (reason : String) : String :=
  if reason.utf8ByteSize ≤ reasonCapacity then reason else ""

end MotionControl
