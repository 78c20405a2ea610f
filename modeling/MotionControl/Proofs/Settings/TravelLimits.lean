import MotionControl.Axis
import MotionControl.Proofs.Binary.Order
import MotionControl.Proofs.Settings.Acceptance

/-!
# Finite settings and the limits of travel

The check of the settings looks at every number of an axis but one, the position of the axis once it
is homed. So the numbers of accepted settings are finite exactly if their home positions are, and
the travel limits of an axis are in order exactly if its home position is a number at all
(`MachineSettings.measured_of_accepted`). An infinite home position still leaves limits that are in
order, because a sum keeps to the side of its summands; with NaN for a home position both limits are
NaN, and no position is outside them (`MachineSettings.accepts_lostHome`).
-/

set_option autoImplicit false
set_option relaxedAutoImplicit false

namespace MotionControl

/-! ### The numbers of an axis -/

/-- The rates and the scalers. -/
def HomingSettings.checkedNumbers (settings : HomingSettings) : List Single :=
  [settings.feedRate.mmPerMinute, settings.seekRate.mmPerMinute, settings.seekScaler,
    settings.feedScaler]

namespace AxisSettings

/-- The position of the axis once it is homed, if the settings say how to home it. -/
def homePosition? (settings : AxisSettings) : Option Length :=
  settings.homing.map HomingSettings.position

/-- All numbers other than the position after homing. -/
def checkedNumbers (settings : AxisSettings) : List Single :=
  [settings.stepsPerMm, settings.maxRate.mmPerMinute, settings.acceleration.mmPerSecondSquared,
      settings.maxTravel.mm] ++
    settings.homing.toList.flatMap HomingSettings.checkedNumbers ++
    settings.motors.toList.flatMap fun motor ↦ motor.toList.map fun motor ↦ motor.pulloff.mm

/-- All numbers of the axis, its homing and its motors. -/
def numbers (settings : AxisSettings) : List Single :=
  settings.checkedNumbers ++ settings.homePosition?.toList.map Length.mm

end AxisSettings

theorem HomingSettings.Usable.isFinite_of_mem {settings : HomingSettings} (usable : settings.Usable)
    {x : Single} (hx : x ∈ settings.checkedNumbers) : x.isFinite = true := by
  simp only [checkedNumbers, List.mem_cons, List.not_mem_nil, or_false] at hx
  rcases hx with rfl | rfl | rfl | rfl
  · exact Binary.isFinite_of_isUsable usable.feedRate
  · exact Binary.isFinite_of_isUsable usable.seekRate
  · exact Binary.isFinite_of_isScaler usable.seekScaler
  · exact Binary.isFinite_of_isScaler usable.feedScaler

namespace AxisSettings

/-- A motor that is listed is in one of the slots. -/
theorem exists_motor?_of_mem {settings : AxisSettings} {motor : MotorSettings}
    (h : some motor ∈ settings.motors.toList) : ∃ slot, settings.motor? slot = some motor := by
  obtain ⟨slot, hslot⟩ := List.mem_iff_getElem?.mp h
  rw [Vector.getElem?_toList] at hslot
  exact ⟨slot, Option.join_eq_some_iff.mpr hslot⟩

theorem Usable.isFinite_of_mem {settings : AxisSettings} (usable : settings.Usable) {x : Single}
    (hx : x ∈ settings.checkedNumbers) : x.isFinite = true := by
  rw [checkedNumbers, List.mem_append, List.mem_append, List.mem_flatMap, List.mem_flatMap] at hx
  rcases hx with (hx | ⟨homing, hhoming, hx⟩) | ⟨entry, hentry, hx⟩
  · simp only [List.mem_cons, List.not_mem_nil, or_false] at hx
    rcases hx with rfl | rfl | rfl | rfl
    · exact Binary.isFinite_of_isUsable usable.stepsPerMm
    · exact Binary.isFinite_of_isUsable usable.maxRate
    · exact Binary.isFinite_of_isUsable usable.acceleration
    · exact Binary.isFinite_of_isDistance usable.maxTravel
  · exact (usable.homing homing (Option.mem_toList.mp hhoming)).isFinite_of_mem hx
  · obtain ⟨motor, hmotor, rfl⟩ := List.mem_map.mp hx
    obtain rfl : entry = some motor := Option.mem_toList.mp hmotor
    obtain ⟨slot, hslot⟩ := exists_motor?_of_mem hentry
    exact Binary.isFinite_of_isDistance (usable.pulloff slot motor hslot)

/-- The numbers are all finite if the home position is, too. -/
theorem Usable.isFinite_numbers_iff {settings : AxisSettings} (usable : settings.Usable) :
    (∀ x ∈ settings.numbers, x.isFinite = true) ↔
      ∀ home, settings.homePosition? = some home → home.mm.isFinite = true := by
  constructor
  · intro hfinite home hhome
    refine hfinite home.mm (List.mem_append_right _ (List.mem_map_of_mem ?_))
    exact Option.mem_toList.mpr hhome
  · intro hhome x hx
    rcases List.mem_append.mp hx with hx | hx
    · exact usable.isFinite_of_mem hx
    · obtain ⟨home, hmem, rfl⟩ := List.mem_map.mp hx
      exact hhome home (Option.mem_toList.mp hmem)

end AxisSettings

/-! ### Limits in order -/

/-- Two lengths other than NaN, the first of them not above the second. -/
structure Length.InOrder (low high : Length) : Prop where
  low_ne_nan : low.mm ≠ .nan
  high_ne_nan : high.mm ≠ .nan
  ordered : low.order? high = some .lt ∨ low.order? high = some .eq

theorem Length.inOrder_of_rank {low high : Length} {i j : Int} (hlow : low.mm.rank = some i)
    (hhigh : high.mm.rank = some j) (hle : i ≤ j) : low.InOrder high where
  low_ne_nan hnan := by simp [Binary.rank_eq_none_iff.mpr hnan] at hlow
  high_ne_nan hnan := by simp [Binary.rank_eq_none_iff.mpr hnan] at hhigh
  ordered := by
    rw [order?, Binary.order?_of_rank hlow hhigh]
    rcases hle.lt_or_eq with hlt | rfl
    · exact .inl (congrArg some (compare_lt_iff_lt.mpr hlt))
    · exact .inr (congrArg some (compare_eq_iff_eq.mpr rfl))

/-- A distance added to a length does not lead below it. -/
theorem Length.inOrder_add {start distance : Length} (hstart : start.mm ≠ .nan)
    (hdistance : distance.mm.isDistance = true) : start.InOrder (start + distance) := by
  obtain ⟨i, j, hi, hj, hle⟩ := Binary.rank_le_rank_add hstart
    (Binary.isFinite_of_isDistance hdistance) (Binary.isNonnegative_of_isDistance hdistance)
  exact inOrder_of_rank hi hj hle

/-- A distance taken away from a length does not lead above it. -/
theorem Length.sub_inOrder {start distance : Length} (hstart : start.mm ≠ .nan)
    (hdistance : distance.mm.isDistance = true) : (start - distance).InOrder start := by
  obtain ⟨i, j, hi, hj, hle⟩ := Binary.rank_sub_le_rank hstart
    (Binary.isFinite_of_isDistance hdistance) (Binary.isNonnegative_of_isDistance hdistance)
  exact inOrder_of_rank hi hj hle

/-- The home position is one of the limits, so limits are in order only if it is not NaN; then the
other limit is a distance away from it. -/
theorem AxisSettings.Usable.travelLimits_inOrder_iff {settings : AxisSettings}
    (usable : settings.Usable) (D : Type) (index : Nat) :
    (Axis.ofSettings index settings : Axis D).travelLimits.1.InOrder
        (Axis.ofSettings index settings : Axis D).travelLimits.2 ↔
      ∀ home, settings.homePosition? = some home → home.mm ≠ .nan := by
  cases hhoming : settings.homing with
  | none =>
    -- The limits end at zero, and nothing is asked of a home position.
    have hlimits : ((⟨0⟩ : Length) - settings.maxTravel).InOrder ⟨0⟩ :=
      Length.sub_inOrder Binary.zero_ne_nan usable.maxTravel
    simpa [Axis.travelLimits, Axis.homesNegative, Axis.ofSettings, hhoming, homePosition?] using
      hlimits
  | some homing =>
    have hlimits : (Axis.ofSettings index settings : Axis D).travelLimits =
        if homing.positiveDirection then (homing.position - settings.maxTravel, homing.position)
        else (homing.position, homing.position + settings.maxTravel) := by
      cases hdirection : homing.positiveDirection <;>
        simp [Axis.travelLimits, Axis.homesNegative, Axis.ofSettings, hhoming, hdirection]
    have hhome : settings.homePosition? = some homing.position := by
      rw [homePosition?, hhoming]
      rfl
    rw [hlimits, hhome]
    constructor
    · intro hordered home hhome
      obtain rfl := Option.some_inj.mp hhome
      cases hdirection : homing.positiveDirection <;> simp only [hdirection, if_true] at hordered
      · exact hordered.low_ne_nan
      · exact hordered.high_ne_nan
    · intro hnumber
      have hposition := hnumber homing.position rfl
      cases homing.positiveDirection
      · exact Length.inOrder_add hposition usable.maxTravel
      · exact Length.sub_inOrder hposition usable.maxTravel

/-! ### Accepted settings -/

/-- How far the numbers of an axis section can be relied on: only the home position is in doubt. -/
structure AxisSettings.Measured (settings : AxisSettings) : Prop where
  checkedNumbers : ∀ x ∈ settings.checkedNumbers, x.isFinite = true
  numbers : (∀ x ∈ settings.numbers, x.isFinite = true) ↔
    ∀ home, settings.homePosition? = some home → home.mm.isFinite = true
  travelLimits : ∀ (D : Type) (index : Nat),
    (Axis.ofSettings index settings : Axis D).travelLimits.1.InOrder
        (Axis.ofSettings index settings : Axis D).travelLimits.2 ↔
      ∀ home, settings.homePosition? = some home → home.mm ≠ .nan

namespace MachineSettings

/-- In accepted settings, of whatever text, only a home position can spoil the numbers of an axis or
its travel limits. -/
theorem measured_of_accepted {settings : MachineSettings}
    (accepted : settings.validate = .ok () ∨ ∃ text, load text = .ok settings) (index : Nat)
    (axis : AxisSettings) (present : settings.axes.axis? index = some axis) : axis.Measured := by
  have usable : axis.Usable := (usable_of_accepted accepted).axes index axis present
  exact ⟨fun _ hx ↦ usable.isFinite_of_mem hx, usable.isFinite_numbers_iff,
    usable.travelLimits_inOrder_iff⟩

/-- One axis is homed to the negative end of its travel, another one has a motor. -/
def homedBelowText : String :=
  "[axes.x]\nmax_travel_mm = 300.0\nhoming.positive_direction = false\nhoming.mpos_mm = -5.5\n" ++
    "[axes.y.motor0]\npulloff_mm = 2.0\n"

def homedBelowAxis : AxisSettings :=
  { maxTravel := ⟨300⟩, homing := some { positiveDirection := false, position := ⟨-5.5⟩ } }

def homedBelow : MachineSettings :=
  { axes :=
      { axes := #v[some homedBelowAxis, some { motors := #v[some { pulloff := ⟨2⟩ }, none] },
          none, none, none, none] } }

theorem measured_homedBelow :
    load homedBelowText = .ok homedBelow ∧ homedBelow.axes.axis? 0 = some homedBelowAxis ∧
      (∀ x ∈ homedBelowAxis.numbers, x.isFinite = true) ∧
      (Axis.ofSettings 0 homedBelowAxis : Axis NullMotor).travelLimits.1.InOrder
        (Axis.ofSettings 0 homedBelowAxis : Axis NullMotor).travelLimits.2 := by
  have hload : load homedBelowText = .ok homedBelow := by decide +kernel
  have hpresent : homedBelow.axes.axis? 0 = some homedBelowAxis := rfl
  have measured := measured_of_accepted (.inr ⟨_, hload⟩) 0 homedBelowAxis hpresent
  have hhome : homedBelowAxis.homePosition? = some ⟨-5.5⟩ := rfl
  refine ⟨hload, hpresent, measured.numbers.mpr ?_, (measured.travelLimits NullMotor 0).mpr ?_⟩
  · rw [hhome]
    rintro _ ⟨⟩
    decide +kernel
  · rw [hhome]
    rintro _ ⟨⟩
    decide +kernel

/-- An axis whose section puts its home nowhere. -/
def lostHomeAxis : AxisSettings := { homing := some { position := ⟨.nan⟩ } }

def lostHome : MachineSettings :=
  { axes := { axes := #v[some lostHomeAxis, none, none, none, none, none] } }

/-- A text may put the home of an axis nowhere: it is accepted, the position is not finite, and both
limits are NaN. -/
theorem accepts_lostHome :
    load "[axes.x.homing]\nmpos_mm = nan\n" = .ok lostHome ∧ lostHome.validate = .ok () ∧
      lostHome.axes.axis? 0 = some lostHomeAxis ∧
      ¬ (∀ x ∈ lostHomeAxis.numbers, x.isFinite = true) ∧
      (Axis.ofSettings 0 lostHomeAxis : Axis NullMotor).travelLimits = (⟨.nan⟩, ⟨.nan⟩) ∧
      ¬ (Axis.ofSettings 0 lostHomeAxis : Axis NullMotor).travelLimits.1.InOrder
        (Axis.ofSettings 0 lostHomeAxis : Axis NullMotor).travelLimits.2 := by
  have hload : load "[axes.x.homing]\nmpos_mm = nan\n" = .ok lostHome := by decide +kernel
  refine ⟨hload, validate_of_load hload, rfl, by decide +kernel, by decide +kernel, ?_⟩
  exact fun hordered ↦ hordered.low_ne_nan rfl

end MachineSettings

end MotionControl
