import MotionControl.Binary.Shortest
import MotionControl.Mask.Motor

/-!
# Messages

What the operations report beside their results, as data; `LogEntry.text` gives the wording.
-/

set_option autoImplicit false
set_option relaxedAutoImplicit false

namespace MotionControl

inductive LogLevel
  | error
  | info
  | debug
  deriving DecidableEq, Repr

def LogLevel.text : LogLevel → String
  | .error => "ERROR"
  | .info => "INFO"
  | .debug => "DEBUG"

/-- A message of the log. -/
inductive LogEntry
  /-- A letter that names no axis. -/
  | unknownLetter (letter : Char)
  | axisCount (count : Nat)
  | sharedDisable
  | sharedReset
  /-- The travel limits of an axis. -/
  | axisTravel (letter : Char) (low high : Single)
  /-- A wait for motors that were switched on again. -/
  | motorSettle (microseconds : Nat)
  /-- A change of homing mode: the axes asked for and the motors that took part. -/
  | homingMode (on : Bool) (axes : AxisMask) (active : MotorMask)
  | timerReady (hertz : Nat)
  | engineEnabled
  | engineDisabled
  deriving DecidableEq, Repr

/-- A number in hexadecimal digits. -/
def hexText (n : Nat) : String := String.ofList (Nat.toDigits 16 n)

namespace LogEntry

def level : LogEntry → LogLevel
  | unknownLetter _ => .error
  | axisCount _ | sharedDisable | sharedReset | axisTravel .. | timerReady _ => .info
  | motorSettle _ | homingMode .. | engineEnabled | engineDisabled => .debug

def text : LogEntry → String
  | unknownLetter letter => s!"Invalid axis name {letter}"
  | axisCount count => s!"Axis count {count}"
  | sharedDisable => "Shared stepper disable"
  | sharedReset => "Shared stepper reset"
  | axisTravel letter low high => s!"Axis {letter} ({low.text},{high.text})"
  | motorSettle microseconds => s!"Motor settle {microseconds}us"
  | homingMode on axes active =>
    s!"Homing mode {on} axes {hexText axes.bits.toNat} active {hexText active.bits.toNat}"
  | timerReady hertz => s!"Step timer {hertz} Hz"
  | engineEnabled => "Step engine enabled"
  | engineDisabled => "Step engine disabled"

/-- The level and the text of a message. -/
def line (entry : LogEntry) : String := s!"{entry.level.text} {entry.text}"

end LogEntry

end MotionControl
