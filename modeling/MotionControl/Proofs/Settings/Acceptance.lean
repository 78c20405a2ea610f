import MotionControl.Proofs.Registry.Sections
import MotionControl.Settings.Load

/-!
# Which settings are accepted

Settings have no defect exactly if each section meets its own demands, which are stated here section
by section (`MachineSettings.validate_eq_ok_iff`). A text gives only settings that have no defect
(`MachineSettings.validate_of_load`). Nothing is asked of the position after homing.
-/

set_option autoImplicit false
set_option relaxedAutoImplicit false

namespace MotionControl

/-! ### The demands -/

section

variable {F : BinaryFormat} {x : Binary F}

theorem Binary.isFinite_of_isUsable (h : x.isUsable = true) : x.isFinite = true :=
  (Bool.and_eq_true_iff.mp h).1

theorem Binary.isFinite_of_isDistance (h : x.isDistance = true) : x.isFinite = true :=
  (Bool.and_eq_true_iff.mp h).1

theorem Binary.isNonnegative_of_isDistance (h : x.isDistance = true) : x.isNonnegative = true :=
  (Bool.and_eq_true_iff.mp h).2

theorem Binary.isFinite_of_isScaler (h : x.isScaler = true) : x.isFinite = true :=
  (Bool.and_eq_true_iff.mp h).1

end

/-- Rates above zero and scalers above one, all finite. -/
structure HomingSettings.Usable (settings : HomingSettings) : Prop where
  feedRate : settings.feedRate.mmPerMinute.isUsable = true
  seekRate : settings.seekRate.mmPerMinute.isUsable = true
  seekScaler : settings.seekScaler.isScaler = true
  feedScaler : settings.feedScaler.isScaler = true

/-- A resolution, a rate and an acceleration above zero, distances not below zero, all finite. -/
structure AxisSettings.Usable (settings : AxisSettings) : Prop where
  stepsPerMm : settings.stepsPerMm.isUsable = true
  maxRate : settings.maxRate.mmPerMinute.isUsable = true
  acceleration : settings.acceleration.mmPerSecondSquared.isUsable = true
  maxTravel : settings.maxTravel.mm.isDistance = true
  homing : ∀ homing, settings.homing = some homing → homing.Usable
  pulloff : ∀ slot motor, settings.motor? slot = some motor → motor.pulloff.mm.isDistance = true

/-- Counts that do not vanish, homing runs in their range, and usable axes. -/
structure MachineSettings.Usable (settings : MachineSettings) : Prop where
  pulseWidth : settings.stepping.pulseWidth ≠ 0
  timerFrequency : settings.stepping.timerFrequency ≠ 0
  homingRuns : homingRunsRange.1 ≤ settings.axes.homingRuns.toNat ∧
    settings.axes.homingRuns.toNat ≤ homingRunsRange.2
  axes : ∀ index axis, settings.axes.axis? index = some axis → axis.Usable

/-! ### Settings without defects -/

theorem defectUnless_eq_nil_iff {holds : Bool} {fault : ConfigFault} :
    defectUnless holds fault = [] ↔ holds = true := by
  cases holds <;> simp [defectUnless]

/-- Sections have no defects if no section that is present has any. -/
theorem presentDefects_eq_nil_iff {α : Type} {n : Nat} {sections : Vector (Option α) n}
    {defects : Nat → α → List ConfigFault} :
    presentDefects sections.toList defects = [] ↔
      ∀ index present, sections[index]?.join = some present → defects index present = [] := by
  rw [presentDefects, List.flatMap_eq_nil_iff]
  constructor
  · intro h index present hpresent
    rw [Option.join_eq_some_iff, ← Vector.getElem?_toList] at hpresent
    exact h (some present, index) (List.mem_zipIdx_iff_getElem?.mpr hpresent)
  · rintro h ⟨entry, index⟩ hmem
    rw [List.mem_zipIdx_iff_getElem?, Vector.getElem?_toList] at hmem
    cases entry with
    | none => rfl
    | some present => exact h index present (Option.join_eq_some_iff.mpr hmem)

theorem HomingSettings.defects_eq_nil_iff {letter : Char} {settings : HomingSettings} :
    settings.defects letter = [] ↔ settings.Usable := by
  simp only [defects, List.append_eq_nil_iff, defectUnless_eq_nil_iff]
  constructor
  · rintro ⟨⟨⟨hfeed, hseek⟩, hseekScaler⟩, hfeedScaler⟩
    exact ⟨hfeed, hseek, hseekScaler, hfeedScaler⟩
  · intro usable
    exact ⟨⟨⟨usable.feedRate, usable.seekRate⟩, usable.seekScaler⟩, usable.feedScaler⟩

theorem AxisSettings.defects_eq_nil_iff {letter : Char} {settings : AxisSettings} :
    settings.defects letter = [] ↔ settings.Usable := by
  have hhoming : (settings.homing.map (HomingSettings.defects letter)).getD [] = [] ↔
      ∀ homing, settings.homing = some homing → homing.Usable := by
    cases settings.homing <;> simp [HomingSettings.defects_eq_nil_iff]
  simp only [defects, List.append_eq_nil_iff, defectUnless_eq_nil_iff, hhoming,
    presentDefects_eq_nil_iff, MotorSettings.defects]
  constructor
  · rintro ⟨⟨⟨⟨⟨hsteps, hrate⟩, hacceleration⟩, htravel⟩, hhoming⟩, hpulloff⟩
    exact ⟨hsteps, hrate, hacceleration, htravel, hhoming, hpulloff⟩
  · intro usable
    exact ⟨⟨⟨⟨⟨usable.stepsPerMm, usable.maxRate⟩, usable.acceleration⟩, usable.maxTravel⟩,
      usable.homing⟩, usable.pulloff⟩

namespace MachineSettings

theorem defects_eq_nil_iff {settings : MachineSettings} :
    settings.defects = [] ↔ settings.Usable := by
  simp only [defects, SteppingSettings.defects, AxesSettings.defects, List.append_eq_nil_iff,
    defectUnless_eq_nil_iff, bne_iff_ne, Bool.and_eq_true, decide_eq_true_iff,
    presentDefects_eq_nil_iff, AxisSettings.defects_eq_nil_iff]
  constructor
  · rintro ⟨⟨hwidth, hfrequency⟩, hruns, haxes⟩
    exact ⟨hwidth, hfrequency, hruns, haxes⟩
  · intro usable
    exact ⟨⟨usable.pulseWidth, usable.timerFrequency⟩, usable.homingRuns, usable.axes⟩

/-- The check accepts settings exactly if they are usable. -/
theorem validate_eq_ok_iff {settings : MachineSettings} :
    settings.validate = .ok () ↔ settings.Usable := by
  rw [← defects_eq_nil_iff, validate]
  cases settings.defects <;> simp

/-- A text gives only settings that the check accepts. -/
theorem validate_of_load {text : String} {settings : MachineSettings}
    (h : load text = .ok settings) : settings.validate = .ok () := by
  unfold load at h
  split at h
  · cases h
  · cases h
  · split at h
    next hvalid =>
      cases h
      exact hvalid
    next => cases h

/-- Settings are accepted as they are, or with the text that gives them. -/
theorem usable_of_accepted {settings : MachineSettings}
    (accepted : settings.validate = .ok () ∨ ∃ text, load text = .ok settings) :
    settings.Usable :=
  validate_eq_ok_iff.mp (accepted.elim id fun ⟨_, hload⟩ ↦ validate_of_load hload)

/-- What a text gives can be checked by reading it. -/
instance (text : String) (settings : MachineSettings) : Decidable (load text = .ok settings) :=
  decidable_of_iff ((load text).toOption = some settings) <| by
    cases load text <;> simp [Except.toOption]

end MachineSettings

end MotionControl
