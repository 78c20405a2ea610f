import MotionControl.Proofs.Binary.Value
import MotionControl.Proofs.Registry.Sections
import MotionControl.Proofs.Settings.Fields

/-!
# Documents that spell the settings of a machine

A document spells the settings of a machine if its root table does: each field of each section is
listed here with its key, the value it has when it is left out, and how its value is written. A
number is written as the same number of double precision, a section as a table, and an axis, a
homing section or a motor that is absent is left out. Any document that spells settings is read as
these settings, and all settings are spelled by some document (`MachineSettings.decode_spelled`).
-/

set_option autoImplicit false
set_option relaxedAutoImplicit false

namespace MotionControl

open Toml (Node)

/-! ### Single values -/

/-- A number is spelled by the same number of double precision. -/
def SpellsNumber (x : Single) (node : Node) : Prop :=
  ∃ d : Double, Binary.SameNumber d x ∧ node = .float d

def SpellsCount (count : UInt32) (node : Node) : Prop := node = .integer count.toNat

def SpellsCycle (cycle : UInt8) (node : Node) : Prop := node = .integer cycle.toNat

def SpellsSwitch (on : Bool) (node : Node) : Prop := node = .boolean on

def SpellsPin (pin : Pin) (node : Node) : Prop := node = .string pin.text

theorem reads_number : Reads decodeNumber SpellsNumber where
  exists_node x :=
    have ⟨d, same⟩ := Binary.exists_sameNumber_double x
    ⟨.float d, d, same, rfl⟩
  decode_eq := by
    rintro x _ ⟨d, same, rfl⟩
    rw [decodeNumber, Binary.convert_of_sameNumber same]

theorem reads_count : Reads decodeCount SpellsCount where
  exists_node count := ⟨_, rfl⟩
  decode_eq := by
    rintro count _ rfl
    simp [decodeCount, count.toNat_lt_size]

theorem reads_cycle : Reads decodeCycle SpellsCycle where
  exists_node cycle := ⟨_, rfl⟩
  decode_eq := by
    rintro cycle _ rfl
    simp [decodeCycle, cycle.toNat_lt_size]

theorem reads_switch : Reads decodeSwitch SpellsSwitch where
  exists_node on := ⟨_, rfl⟩
  decode_eq := by
    rintro on _ rfl
    rfl

theorem reads_pin : Reads decodePin SpellsPin where
  exists_node pin := ⟨_, rfl⟩
  decode_eq := by
    rintro pin _ rfl
    simp [decodePin, Pin.ofText?, pin.fits]

/-! ### The fields of each section -/

def steppingFields : List (Field SteppingSettings) := [
  ⟨"pulse_us", (·.pulseWidth), 4, SpellsCount⟩,
  ⟨"dir_delay_us", (·.directionDelay), 0, SpellsCount⟩,
  ⟨"disable_delay_us", (·.disableDelay), 0, SpellsCount⟩,
  ⟨"idle_ms", (·.idleTime), 255, SpellsCount⟩,
  ⟨"segments", (·.segments), 12, SpellsCount⟩,
  ⟨"timer_frequency_hz", (·.timerFrequency), 1000000, SpellsCount⟩]

def homingFields : List (Field HomingSettings) := [
  ⟨"cycle", (·.cycle), none, SpellsSome SpellsCycle⟩,
  ⟨"positive_direction", (·.positiveDirection), true, SpellsSwitch⟩,
  ⟨"mpos_mm", (·.position.mm), 0, SpellsNumber⟩,
  ⟨"feed_mm_per_min", (·.feedRate.mmPerMinute), 50, SpellsNumber⟩,
  ⟨"seek_mm_per_min", (·.seekRate.mmPerMinute), 200, SpellsNumber⟩,
  ⟨"settle_ms", (·.settleTime), 250, SpellsCount⟩,
  ⟨"seek_scaler", (·.seekScaler), 1.1, SpellsNumber⟩,
  ⟨"feed_scaler", (·.feedScaler), 1.1, SpellsNumber⟩,
  ⟨"allow_single_axis", (·.allowSingleAxis), true, SpellsSwitch⟩]

def motorFields : List (Field MotorSettings) := [
  ⟨"hard_limits", (·.hardLimits), true, SpellsSwitch⟩,
  ⟨"pulloff_mm", (·.pulloff.mm), 1, SpellsNumber⟩,
  ⟨"limit_neg_pin", (·.limitNegativePin), .unwired, SpellsPin⟩,
  ⟨"limit_pos_pin", (·.limitPositivePin), .unwired, SpellsPin⟩,
  ⟨"limit_all_pin", (·.limitAllPin), .unwired, SpellsPin⟩]

/-- The section of the motor in a slot. -/
def motorField (key : String) (slot : Nat) : Field AxisSettings :=
  ⟨key, (·.motor? slot), none, SpellsSome (SpellsSection motorFields)⟩

def axisFields : List (Field AxisSettings) := [
  ⟨"steps_per_mm", (·.stepsPerMm), 80, SpellsNumber⟩,
  ⟨"max_rate_mm_per_min", (·.maxRate.mmPerMinute), 1000, SpellsNumber⟩,
  ⟨"acceleration_mm_per_sec2", (·.acceleration.mmPerSecondSquared), 25, SpellsNumber⟩,
  ⟨"max_travel_mm", (·.maxTravel.mm), 1000, SpellsNumber⟩,
  ⟨"homing", (·.homing), none, SpellsSome (SpellsSection homingFields)⟩,
  motorField "motor0" 0,
  motorField "motor1" 1]

/-- The section of the axis of an index. -/
def axisField (key : String) (index : Nat) : Field AxesSettings :=
  ⟨key, (·.axis? index), none, SpellsSome (SpellsSection axisFields)⟩

def axesFields : List (Field AxesSettings) := [
  ⟨"shared_stepper_disable_pin", (·.disablePin), .unwired, SpellsPin⟩,
  ⟨"shared_stepper_reset_pin", (·.resetPin), .unwired, SpellsPin⟩,
  ⟨"homing_runs", (·.homingRuns), 2, SpellsCount⟩,
  axisField "x" 0,
  axisField "y" 1,
  axisField "z" 2,
  axisField "a" 3,
  axisField "b" 4,
  axisField "c" 5]

def machineFields : List (Field MachineSettings) := [
  ⟨"stepping", (·.stepping), {}, SpellsSection steppingFields⟩,
  ⟨"axes", (·.axes), {}, SpellsSection axesFields⟩]

/-! ### Sections in their places -/

theorem AxisSettings.motor?_default (slot : Nat) : ({} : AxisSettings).motor? slot = none := by
  rw [motor?, Vector.getElem?_replicate]
  split_ifs <;> rfl

theorem AxisSettings.motor?_set (settings : AxisSettings) {slot : Nat} (fits : slot < slotsPerAxis)
    (motor : Option MotorSettings) (other : Nat) :
    { settings with motors := settings.motors.set slot motor fits }.motor? other =
      if slot = other then motor else settings.motor? other := by
  rw [motor?, Vector.getElem?_set]
  split_ifs <;> rfl

theorem AxesSettings.axis?_default (index : Nat) : ({} : AxesSettings).axis? index = none := by
  rw [axis?, Vector.getElem?_replicate]
  split_ifs <;> rfl

theorem AxesSettings.axis?_set (settings : AxesSettings) {index : Nat} (fits : index < maxAxes)
    (axis : Option AxisSettings) (other : Nat) :
    { settings with axes := settings.axes.set index axis fits }.axis? other =
      if index = other then axis else settings.axis? other := by
  rw [axis?, Vector.getElem?_set]
  split_ifs <;> rfl

/-! ### Sections are read as they are spelled -/

theorem reading_stepping : Reading steppingFields steppingKeys {} where
  distinct := by decide
  readBy := by
    refine .cons ?_ <| .cons ?_ <| .cons ?_ <| .cons ?_ <| .cons ?_ <| .cons ?_ .nil
    all_goals exact .plain reads_count (by simp [steppingFields]) fun _ _ ↦ by rfl
  ext settings other h := by
    cases settings
    cases other
    simpa [steppingFields] using h
  default := by simp [steppingFields]

theorem reading_homing : Reading homingFields homingKeys {} where
  distinct := by decide
  readBy := by
    refine .cons (.optional reads_cycle ?_ fun _ _ ↦ by rfl) <|
      .cons (.plain reads_switch ?_ fun _ _ ↦ by rfl) <|
      .cons (.plain reads_number ?_ fun _ _ ↦ by rfl) <|
      .cons (.plain reads_number ?_ fun _ _ ↦ by rfl) <|
      .cons (.plain reads_number ?_ fun _ _ ↦ by rfl) <|
      .cons (.plain reads_count ?_ fun _ _ ↦ by rfl) <|
      .cons (.plain reads_number ?_ fun _ _ ↦ by rfl) <|
      .cons (.plain reads_number ?_ fun _ _ ↦ by rfl) <|
      .cons (.plain reads_switch ?_ fun _ _ ↦ by rfl) .nil
    all_goals simp [homingFields]
  ext settings other h := by
    obtain ⟨_, _, ⟨_⟩, ⟨_⟩, ⟨_⟩, _, _, _, _⟩ := settings
    obtain ⟨_, _, ⟨_⟩, ⟨_⟩, ⟨_⟩, _, _, _, _⟩ := other
    simpa [homingFields] using h
  default := by simp [homingFields]

theorem reading_motor : Reading motorFields motorKeys {} where
  distinct := by decide
  readBy := by
    refine .cons (.plain reads_switch ?_ fun _ _ ↦ by rfl) <|
      .cons (.plain reads_number ?_ fun _ _ ↦ by rfl) <|
      .cons (.plain reads_pin ?_ fun _ _ ↦ by rfl) <|
      .cons (.plain reads_pin ?_ fun _ _ ↦ by rfl) <|
      .cons (.plain reads_pin ?_ fun _ _ ↦ by rfl) .nil
    all_goals simp [motorFields]
  ext settings other h := by
    obtain ⟨_, ⟨_⟩, _, _, _⟩ := settings
    obtain ⟨_, ⟨_⟩, _, _, _⟩ := other
    simpa [motorFields] using h
  default := by simp [motorFields]

theorem reading_axis : Reading axisFields axisKeys {} where
  distinct := by decide
  readBy := by
    refine .cons (.plain reads_number ?_ fun _ _ ↦ by rfl) <|
      .cons (.plain reads_number ?_ fun _ _ ↦ by rfl) <|
      .cons (.plain reads_number ?_ fun _ _ ↦ by rfl) <|
      .cons (.plain reads_number ?_ fun _ _ ↦ by rfl) <|
      .cons (.optional (reading_homing.reads .homing {}) ?_ fun _ _ ↦ by rfl) <|
      .cons (.optional (reading_motor.reads .motor {}) ?_ fun _ _ ↦
        (AxisSettings.motor?_set ..).trans (if_pos rfl)) <|
      .cons (.optional (reading_motor.reads .motor {}) ?_ fun _ _ ↦
        (AxisSettings.motor?_set ..).trans (if_pos rfl)) .nil
    case refine_6 | refine_7 => simp +decide [axisFields, motorField, AxisSettings.motor?_set]
    all_goals simp [axisFields, motorField, AxisSettings.motor?]
  ext settings other h := by
    simp only [axisFields, List.forall_mem_cons] at h
    obtain ⟨hsteps, hrate, hacceleration, htravel, hhoming, hmotor0, hmotor1, -⟩ := h
    have hmotors : settings.motors = other.motors := by
      refine Vector.ext fun slot (hslot : slot < 2) ↦ ?_
      obtain rfl | rfl : slot = 0 ∨ slot = 1 := by omega
      exacts [hmotor0, hmotor1]
    obtain ⟨_, ⟨_⟩, ⟨_⟩, ⟨_⟩, _, _⟩ := settings
    obtain ⟨_, ⟨_⟩, ⟨_⟩, ⟨_⟩, _, _⟩ := other
    simp_all
  default := by simp [axisFields, motorField, AxisSettings.motor?_default]

theorem reading_axes : Reading axesFields axesKeys {} where
  distinct := by decide
  readBy := by
    refine .cons (.plain reads_pin ?_ fun _ _ ↦ by rfl) <|
      .cons (.plain reads_pin ?_ fun _ _ ↦ by rfl) <|
      .cons (.plain reads_count ?_ fun _ _ ↦ by rfl) <|
      .cons ?_ <| .cons ?_ <| .cons ?_ <| .cons ?_ <| .cons ?_ <| .cons ?_ .nil
    case refine_1 | refine_2 | refine_3 => simp [axesFields, axisField, AxesSettings.axis?]
    all_goals
      refine .optional (reading_axis.reads .axis {}) ?_ fun _ _ ↦
        (AxesSettings.axis?_set ..).trans (if_pos rfl)
      simp +decide [axesFields, axisField, AxesSettings.axis?_set]
  ext settings other h := by
    simp only [axesFields, List.forall_mem_cons] at h
    obtain ⟨hdisable, hreset, hruns, hx, hy, hz, ha, hb, hc, -⟩ := h
    have haxes : settings.axes = other.axes := by
      refine Vector.ext fun index (hindex : index < 6) ↦ ?_
      obtain rfl | rfl | rfl | rfl | rfl | rfl :
        index = 0 ∨ index = 1 ∨ index = 2 ∨ index = 3 ∨ index = 4 ∨ index = 5 := by omega
      exacts [hx, hy, hz, ha, hb, hc]
    cases settings
    cases other
    simp_all
  default := by simp [axesFields, axisField, AxesSettings.axis?_default]

theorem reading_machine : Reading machineFields machineKeys {} where
  distinct := by decide
  readBy := by
    refine .cons (.plain (reading_stepping.reads .stepping {}) ?_ fun _ _ ↦ by rfl) <|
      .cons (.plain (reading_axes.reads .axes {}) ?_ fun _ _ ↦ by rfl) .nil
    all_goals simp [machineFields]
  ext settings other h := by
    cases settings
    cases other
    simpa [machineFields] using h
  default := by simp [machineFields]

/-! ### Whole documents -/

namespace MachineSettings

/-- The settings of every machine are spelled by some document, and every document that spells them
is read as them. What the settings of a section have by default, each by itself, is what the section
has by default as a whole. -/
theorem decode_spelled :
    (∀ settings : MachineSettings, (∃ root, SpellsSection machineFields settings root) ∧
      ∀ root, SpellsSection machineFields settings root → decodeMachine root = .ok settings) ∧
    Agrees machineFields machineKeys {} ∧ Agrees steppingFields steppingKeys {} ∧
      Agrees axesFields axesKeys {} ∧ Agrees axisFields axisKeys {} ∧
      Agrees homingFields homingKeys {} ∧ Agrees motorFields motorKeys {} :=
  ⟨fun settings ↦ ⟨reading_machine.exists_spells settings, fun _ spells ↦
    reading_machine.decodeSection_eq spells .machine {}⟩,
    reading_machine.agrees, reading_stepping.agrees, reading_axes.agrees, reading_axis.agrees,
    reading_homing.agrees, reading_motor.agrees⟩

/-! A document in no particular order, with keys of no setting among the others. -/

def scatteredMotor : Node := .table [("colour", .string "red"), ("pulloff_mm", .float 2.5)]

def scatteredAxis : Node :=
  .table [("motor1", scatteredMotor), ("homing", .table []), ("steps_per_mm", .float .nan)]

def scattered : Node :=
  .table [
    ("vendor", .array [.moment]),
    ("axes", .table [
      ("c", scatteredAxis), ("speed", .integer 7), ("homing_runs", .integer 3), ("x", .table [])])]

def scatteredAxisSettings : AxisSettings where
  stepsPerMm := .nan
  homing := some {}
  motors := #v[none, some { pulloff := ⟨2.5⟩ }]

def scatteredSettings : MachineSettings where
  axes := {
    homingRuns := 3
    axes := #v[some {}, none, none, none, none, some scatteredAxisSettings] }

theorem spells_scatteredAxis : SpellsSection axisFields scatteredAxisSettings scatteredAxis := by
  have hnumber : SpellsNumber 2.5 (.float 2.5) := by
    have hdouble : (2.5 : Double) = .finite false ⟨0x4004000000000000, by decide +kernel⟩ := by
      decide +kernel
    have hsingle : (2.5 : Single) = .finite false ⟨0x40200000, by decide +kernel⟩ := by
      decide +kernel
    refine ⟨2.5, ?_, rfl⟩
    rw [hdouble, hsingle]
    exact .finite (Binary.value?_eq_value?_iff.mpr (by decide +kernel))
  have hmotor : SpellsSection motorFields { pulloff := ⟨2.5⟩ } scatteredMotor := by
    refine ⟨_, rfl, by decide, ?_, ?_⟩
    · simpa [motorFields] using hnumber
    · simp [motorFields]
  have hnan : SpellsNumber .nan (.float .nan) := ⟨.nan, .nan, rfl⟩
  refine ⟨_, rfl, by decide, ?_, ?_⟩
  · simpa [axisFields, motorField, AxisSettings.motor?, SpellsSome, scatteredAxisSettings]
      using ⟨hnan, reading_homing.spells_nil, hmotor⟩
  · simp [axisFields, motorField, AxisSettings.motor?, scatteredAxisSettings]

theorem spells_scattered : SpellsSection machineFields scatteredSettings scattered := by
  have hruns : SpellsCount scatteredSettings.axes.homingRuns (.integer 3) := rfl
  have hx : SpellsSome (SpellsSection axisFields) (scatteredSettings.axes.axis? 0) (.table []) :=
    ⟨{}, rfl, reading_axis.spells_nil⟩
  have hc : SpellsSome (SpellsSection axisFields) (scatteredSettings.axes.axis? 5) scatteredAxis :=
    ⟨scatteredAxisSettings, rfl, spells_scatteredAxis⟩
  have haxes : SpellsSection axesFields scatteredSettings.axes (.table [
      ("c", scatteredAxis), ("speed", .integer 7), ("homing_runs", .integer 3),
      ("x", .table [])]) := by
    refine ⟨_, rfl, by decide, ?_, ?_⟩
    · simpa [axesFields, axisField] using ⟨hruns, hx, hc⟩
    · simp +decide [axesFields, axisField, scatteredSettings]
  refine ⟨_, rfl, by decide, ?_, ?_⟩
  · simpa [machineFields] using haxes
  · simp [machineFields, scatteredSettings]

theorem decode_spelled_scattered : SpellsSection machineFields scatteredSettings scattered ∧
    decodeMachine scattered = .ok scatteredSettings :=
  ⟨spells_scattered, (decode_spelled.1 scatteredSettings).2 scattered spells_scattered⟩

end MachineSettings

end MotionControl
