import MotionControl.Settings.Basic
import MotionControl.Text.Quoted
import MotionControl.Binary.Shortest
import MotionControl.Toml.Node

/-!
# Settings from a document

A section of settings is a table whose keys name the settings, in any order and with any other keys
among them, or an array that gives the settings in their order. A setting that is left out has a
value of its own by default, and a section that is left out has one as a whole. The entries are read
in the order of the document, and the first one that does not fit its setting decides.
-/

set_option autoImplicit false
set_option relaxedAutoImplicit false

namespace MotionControl

open Toml (Node)

/-! ### Values that do not fit -/

/-- What a setting takes. -/
inductive Expected
  | number
  | count
  | cycle
  | switch
  | pin
  | stepping
  | axes
  | axis
  | homing
  | motor
  | machine
  deriving DecidableEq, Repr

def Expected.text : Expected → String
  | number => "f32"
  | count => "u32"
  | cycle => "u8"
  | switch => "a boolean"
  | pin => s!"a string no more than {pinCapacity} bytes long"
  | stepping => "struct SteppingConfig"
  | axes => "struct AxesConfig"
  | axis => "struct AxisConfig"
  | homing => "struct HomingConfig"
  | motor => "struct MotorConfig"
  | machine => "struct MachineConfig"

/-- A value of a document that does not fit its setting. -/
inductive Mismatch
  /-- A value of the wrong kind. -/
  | kind (found : Node) (expected : Expected)
  /-- An integer out of range. -/
  | range (found : Int) (expected : Expected)
  /-- A string of too many bytes. -/
  | size (bytes : Nat) (expected : Expected)
  deriving Repr

/-- The text of a double-precision number, told apart from an integer's. -/
def floatText (x : Double) : String :=
  if x.isFinite && !x.text.toList.contains '.' then x.text ++ ".0" else x.text

/-- What a value is called when it does not fit. -/
def Toml.Node.shown : Node → String
  | .boolean value => s!"boolean `{value}`"
  | .integer value => s!"integer `{value}`"
  | .float value => s!"floating point `{floatText value}`"
  | .string value => s!"string {quoted value}"
  | .array _ => "sequence"
  | .moment | .table _ => "map"

def Mismatch.text : Mismatch → String
  | kind found expected => s!"invalid type: {found.shown}, expected {expected.text}"
  | range found expected =>
    s!"invalid value: {(Node.integer found).shown}, expected {expected.text}"
  | size bytes expected => s!"invalid length {bytes}, expected {expected.text}"

/-! ### Single values -/

/-- A reading of a value. -/
abbrev Decoder (α : Type) := Node → Except Mismatch α

def decodeNumber : Decoder Single
  | .float value => .ok value.convert
  | .integer value => .ok (.ofInt value)
  | node => .error (.kind node .number)

def decodeCount : Decoder UInt32
  | .integer value =>
    if 0 ≤ value ∧ value.toNat < UInt32.size then .ok (.ofNat value.toNat)
    else .error (.range value .count)
  | node => .error (.kind node .count)

def decodeCycle : Decoder UInt8
  | .integer value =>
    if 0 ≤ value ∧ value.toNat < UInt8.size then .ok (.ofNat value.toNat)
    else .error (.range value .cycle)
  | node => .error (.kind node .cycle)

def decodeSwitch : Decoder Bool
  | .boolean value => .ok value
  | node => .error (.kind node .switch)

def decodePin : Decoder Pin
  | .string text =>
    match Pin.ofText? text with
    | some pin => .ok pin
    | none => .error (.size text.utf8ByteSize .pin)
  | node => .error (.kind node .pin)

/-! ### Sections -/

/-- A setting of a section: its key, how its value is read, the value that it has when it is left
out, and how its value is put into the section. -/
structure Setting (σ : Type) where
  {α : Type}
  key : String
  decode : Decoder α
  default : α
  store : α → σ → σ

namespace Setting

variable {α σ : Type}

/-- A setting that may be absent, and is if it is left out. -/
def optional (key : String) (decode : Decoder α) (store : Option α → σ → σ) : Setting σ :=
  ⟨key, fun node ↦ (decode node).map some, none, store⟩

/-- Reads the value of the setting into the section. -/
def enter (setting : Setting σ) (node : Node) (settings : σ) : Except Mismatch σ :=
  (setting.decode node).map fun value ↦ setting.store value settings

/-- Leaves the setting out of the section. -/
def leaveOut (setting : Setting σ) (settings : σ) : σ := setting.store setting.default settings

end Setting

/-- The section with all settings left out, each by itself. They replace what was in the section
before. -/
def leaveAllOut {σ : Type} (known : List (Setting σ)) (blank : σ) : σ :=
  known.foldl (fun settings setting ↦ setting.leaveOut settings) blank

/-- Reads one entry of a table into the section; a key of no setting is passed over. -/
def enterEntry {σ : Type} (known : List (Setting σ)) (settings : σ) (entry : String × Node) :
    Except Mismatch σ :=
  match known.find? fun setting ↦ setting.key == entry.1 with
  | some setting => setting.enter entry.2 settings
  | none => .ok settings

/-- Reads a section. A date or time counts as a table without settings. -/
def decodeSection {σ : Type} (expected : Expected) (known : List (Setting σ)) (blank : σ) :
    Decoder σ
  | .table entries => entries.foldlM (enterEntry known) (leaveAllOut known blank)
  | .array items =>
    (known.zip items).foldlM (fun settings pair ↦ pair.1.enter pair.2 settings)
      (leaveAllOut known blank)
  | .moment => .ok (leaveAllOut known blank)
  | node => .error (.kind node expected)

def steppingKeys : List (Setting SteppingSettings) := [
  ⟨"pulse_us", decodeCount, 4, fun v s ↦ { s with pulseWidth := v }⟩,
  ⟨"dir_delay_us", decodeCount, 0, fun v s ↦ { s with directionDelay := v }⟩,
  ⟨"disable_delay_us", decodeCount, 0, fun v s ↦ { s with disableDelay := v }⟩,
  ⟨"idle_ms", decodeCount, idleForever, fun v s ↦ { s with idleTime := v }⟩,
  ⟨"segments", decodeCount, 12, fun v s ↦ { s with segments := v }⟩,
  ⟨"timer_frequency_hz", decodeCount, 1000000, fun v s ↦ { s with timerFrequency := v }⟩]

def homingKeys : List (Setting HomingSettings) := [
  .optional "cycle" decodeCycle fun v s ↦ { s with cycle := v },
  ⟨"positive_direction", decodeSwitch, true, fun v s ↦ { s with positiveDirection := v }⟩,
  ⟨"mpos_mm", decodeNumber, 0, fun v s ↦ { s with position := ⟨v⟩ }⟩,
  ⟨"feed_mm_per_min", decodeNumber, 50, fun v s ↦ { s with feedRate := ⟨v⟩ }⟩,
  ⟨"seek_mm_per_min", decodeNumber, 200, fun v s ↦ { s with seekRate := ⟨v⟩ }⟩,
  ⟨"settle_ms", decodeCount, 250, fun v s ↦ { s with settleTime := v }⟩,
  ⟨"seek_scaler", decodeNumber, 1.1, fun v s ↦ { s with seekScaler := v }⟩,
  ⟨"feed_scaler", decodeNumber, 1.1, fun v s ↦ { s with feedScaler := v }⟩,
  ⟨"allow_single_axis", decodeSwitch, true, fun v s ↦ { s with allowSingleAxis := v }⟩]

def decodeHoming : Decoder HomingSettings := decodeSection .homing homingKeys {}

def motorKeys : List (Setting MotorSettings) := [
  ⟨"hard_limits", decodeSwitch, true, fun v s ↦ { s with hardLimits := v }⟩,
  ⟨"pulloff_mm", decodeNumber, 1, fun v s ↦ { s with pulloff := ⟨v⟩ }⟩,
  ⟨"limit_neg_pin", decodePin, .unwired, fun v s ↦ { s with limitNegativePin := v }⟩,
  ⟨"limit_pos_pin", decodePin, .unwired, fun v s ↦ { s with limitPositivePin := v }⟩,
  ⟨"limit_all_pin", decodePin, .unwired, fun v s ↦ { s with limitAllPin := v }⟩]

def decodeMotor : Decoder MotorSettings := decodeSection .motor motorKeys {}

/-- The section of the motor in a slot. -/
def motorKey (key : String) (slot : Fin slotsPerAxis) : Setting AxisSettings :=
  .optional key decodeMotor fun v s ↦ { s with motors := s.motors.set slot v }

def axisKeys : List (Setting AxisSettings) := [
  ⟨"steps_per_mm", decodeNumber, 80, fun v s ↦ { s with stepsPerMm := v }⟩,
  ⟨"max_rate_mm_per_min", decodeNumber, 1000, fun v s ↦ { s with maxRate := ⟨v⟩ }⟩,
  ⟨"acceleration_mm_per_sec2", decodeNumber, 25, fun v s ↦ { s with acceleration := ⟨v⟩ }⟩,
  ⟨"max_travel_mm", decodeNumber, 1000, fun v s ↦ { s with maxTravel := ⟨v⟩ }⟩,
  .optional "homing" decodeHoming fun v s ↦ { s with homing := v },
  motorKey "motor0" 0,
  motorKey "motor1" 1]

def decodeAxis : Decoder AxisSettings := decodeSection .axis axisKeys {}

/-- The section of the axis of an index. -/
def axisKey (key : String) (index : Fin maxAxes) : Setting AxesSettings :=
  .optional key decodeAxis fun v s ↦ { s with axes := s.axes.set index v }

def axesKeys : List (Setting AxesSettings) := [
  ⟨"shared_stepper_disable_pin", decodePin, .unwired, fun v s ↦ { s with disablePin := v }⟩,
  ⟨"shared_stepper_reset_pin", decodePin, .unwired, fun v s ↦ { s with resetPin := v }⟩,
  ⟨"homing_runs", decodeCount, 2, fun v s ↦ { s with homingRuns := v }⟩,
  axisKey "x" 0,
  axisKey "y" 1,
  axisKey "z" 2,
  axisKey "a" 3,
  axisKey "b" 4,
  axisKey "c" 5]

/-- The sections of a machine. One that is left out is what holds by default as a whole. -/
def machineKeys : List (Setting MachineSettings) := [
  ⟨"stepping", decodeSection .stepping steppingKeys {}, {}, fun v s ↦ { s with stepping := v }⟩,
  ⟨"axes", decodeSection .axes axesKeys {}, {}, fun v s ↦ { s with axes := v }⟩]

/-- The settings of a machine from the root table of a document. -/
def decodeMachine : Decoder MachineSettings := decodeSection .machine machineKeys {}

end MotionControl
