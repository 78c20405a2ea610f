import Mathlib.Data.List.Basic
import MotionControl.Proofs.Binary.Value
import MotionControl.Proofs.Settings.Acceptance

/-!
# The first defect

What is checked of the settings of a machine is a list of single checks (`Check.inOrder`): three of
what the machine has once, then for each axis in turn the same checks of its numbers, those of its
homing section and of its motors if it has them. What a number must be is said of its value, so NaN
and the infinities, which have none, never pass. Settings are accepted exactly if every check holds,
and otherwise the first one that does not is reported, with the number it was made on and the axis
and slot of that number (`MachineSettings.validate_first_defect`).
-/

set_option autoImplicit false
set_option relaxedAutoImplicit false

namespace MotionControl

/-! ### Tests of numbers -/

namespace Binary

variable {x : Single}

/-- Both tests of a number, that it is finite and how it compares, are one of its value. -/
theorem isFinite_and_iff {bound : Single} {q : ℚ} (hq : bound.value? = some q)
    (accepts : Option Ordering → Bool) :
    (x.isFinite && accepts (order? x bound)) = true ↔
      ∃ p, x.value? = some p ∧ accepts (some (compare p q)) = true := by
  rw [Bool.and_eq_true_iff, isFinite_iff]
  constructor
  · rintro ⟨⟨p, hp⟩, haccepts⟩
    rw [order?_of_value? hp hq] at haccepts
    exact ⟨p, hp, haccepts⟩
  · rintro ⟨p, hp, haccepts⟩
    rw [order?_of_value? hp hq]
    exact ⟨⟨p, hp⟩, haccepts⟩

theorem isUsable_iff : x.isUsable = true ↔ ∃ p, x.value? = some p ∧ 0 < p := by
  rw [isUsable, isPositive, isFinite_and_iff value?_zero (· == some .gt)]
  simp [compare_gt_iff_gt]

theorem isDistance_iff : x.isDistance = true ↔ ∃ p, x.value? = some p ∧ 0 ≤ p := by
  rw [isDistance, isNonnegative,
    isFinite_and_iff value?_zero fun order ↦ order == some .gt || order == some .eq]
  simp only [Bool.or_eq_true, beq_iff_eq, Option.some_inj, compare_gt_iff_gt, compare_eq_iff_eq]
  exact exists_congr fun p ↦ and_congr_right fun _ ↦ by rw [le_iff_lt_or_eq, eq_comm]

theorem isScaler_iff : x.isScaler = true ↔ ∃ p, x.value? = some p ∧ 1 < p := by
  rw [isScaler, isFinite_and_iff value?_one (· == some .gt)]
  simp [compare_gt_iff_gt]

end Binary

/-- The fault, unless the condition holds. -/
def faultUnless (holds : Bool) (fault : ConfigFault) : Option ConfigFault :=
  if holds then none else some fault

theorem toList_faultUnless (holds : Bool) (fault : ConfigFault) :
    (faultUnless holds fault).toList = defectUnless holds fault := by
  cases holds <;> rfl

theorem faultUnless_eq_none_iff {holds : Bool} {fault : ConfigFault} :
    faultUnless holds fault = none ↔ holds = true := by
  cases holds <;> simp [faultUnless]

theorem faultUnless_eq_some_iff {holds : Bool} {fault found : ConfigFault} :
    faultUnless holds fault = some found ↔ ¬ holds = true ∧ fault = found := by
  cases holds <;> simp [faultUnless]

/-! ### The checks of an axis -/

/-- The single checks of an axis, each of one number. -/
inductive AxisCheck
  | stepsPerMm
  | maxRate
  | acceleration
  | maxTravel
  | feedRate
  | seekRate
  | seekScaler
  | feedScaler
  | pulloff (slot : Fin slotsPerAxis)

namespace AxisCheck

/-- The checks of an axis, in the order of reporting. -/
def inOrder : List AxisCheck :=
  [stepsPerMm, maxRate, acceleration, maxTravel, feedRate, seekRate, seekScaler, feedScaler] ++
    (List.finRange slotsPerAxis).map pulloff

/-- The number that is checked, if the section that gives it is present. -/
def reading (axis : AxisSettings) : AxisCheck → Option Single
  | stepsPerMm => some axis.stepsPerMm
  | maxRate => some axis.maxRate.mmPerMinute
  | acceleration => some axis.acceleration.mmPerSecondSquared
  | maxTravel => some axis.maxTravel.mm
  | feedRate => axis.homing.map fun homing ↦ homing.feedRate.mmPerMinute
  | seekRate => axis.homing.map fun homing ↦ homing.seekRate.mmPerMinute
  | seekScaler => axis.homing.map HomingSettings.seekScaler
  | feedScaler => axis.homing.map HomingSettings.feedScaler
  | pulloff slot => (axis.motor? slot).map fun motor ↦ motor.pulloff.mm

/-- The values that the number may have. -/
def Admits : AxisCheck → ℚ → Prop
  | stepsPerMm | maxRate | acceleration | feedRate | seekRate => fun value ↦ 0 < value
  | maxTravel | pulloff _ => fun value ↦ 0 ≤ value
  | seekScaler | feedScaler => fun value ↦ 1 < value

/-- The number has a value, and one of those that it may have. -/
def Passes (check : AxisCheck) (x : Single) : Prop :=
  ∃ value, x.value? = some value ∧ check.Admits value

/-- What is reported of a number that does not pass. -/
def fault (letter : Char) (x : Single) : AxisCheck → ConfigFault
  | stepsPerMm => .stepsPerMm letter x
  | maxRate => .maxRate letter x
  | acceleration => .acceleration letter x
  | maxTravel => .maxTravel letter x
  | feedRate | seekRate => .homingRate letter x
  | seekScaler | feedScaler => .homingScaler letter x
  | pulloff slot => .pulloff letter slot x

/-- The test that is made of the number. -/
def accepts : AxisCheck → Single → Bool
  | stepsPerMm | maxRate | acceleration | feedRate | seekRate => Binary.isUsable
  | maxTravel | pulloff _ => Binary.isDistance
  | seekScaler | feedScaler => Binary.isScaler

theorem accepts_iff {check : AxisCheck} {x : Single} : check.accepts x = true ↔ check.Passes x := by
  cases check with
  | stepsPerMm | maxRate | acceleration | feedRate | seekRate => exact Binary.isUsable_iff
  | maxTravel | pulloff => exact Binary.isDistance_iff
  | seekScaler | feedScaler => exact Binary.isScaler_iff

/-- The fault that the check finds. -/
def fault? (letter : Char) (axis : AxisSettings) (check : AxisCheck) : Option ConfigFault :=
  (check.reading axis).bind fun x ↦ faultUnless (check.accepts x) (check.fault letter x)

theorem fault?_eq_none_iff {letter : Char} {axis : AxisSettings} {check : AxisCheck} :
    check.fault? letter axis = none ↔ ∀ x, check.reading axis = some x → check.Passes x := by
  simp only [fault?, Option.bind_eq_none_iff, faultUnless_eq_none_iff, accepts_iff]

theorem fault?_eq_some_iff {letter : Char} {axis : AxisSettings} {check : AxisCheck}
    {fault : ConfigFault} :
    check.fault? letter axis = some fault ↔
      ∃ x, check.reading axis = some x ∧ ¬ check.Passes x ∧ check.fault letter x = fault := by
  simp only [fault?, Option.bind_eq_some_iff, faultUnless_eq_some_iff, accepts_iff]

theorem mem_inOrder (check : AxisCheck) : check ∈ inOrder := by
  cases check with
  | pulloff slot => exact List.mem_append_right _ (List.mem_map_of_mem (List.mem_finRange slot))
  | _ => simp [inOrder]

end AxisCheck

/-- The sections that are present, one index after the other. -/
theorem presentDefects_toList {α : Type} {n : Nat} (sections : Vector (Option α) n)
    (defects : Nat → α → List ConfigFault) :
    presentDefects sections.toList defects =
      (List.finRange n).flatMap fun (index : Fin n) ↦
        (sections[index.val]?.join.map (defects index)).getD [] := by
  have hindexed : sections.toList.zipIdx =
      (List.finRange n).map fun index ↦ (sections[index.val]?.join, index.val) := by
    refine List.ext_getElem (by simp) fun i hi hi' ↦ ?_
    simp
  rw [presentDefects, hindexed, List.flatMap_map]

/-- What a check finds is the defect of its number, if there is one. -/
theorem AxisCheck.toList_fault? (letter : Char) (axis : AxisSettings) (check : AxisCheck) :
    (check.fault? letter axis).toList =
      ((check.reading axis).map fun x ↦
        defectUnless (check.accepts x) (check.fault letter x)).getD [] := by
  rw [fault?]
  cases check.reading axis with
  | none => rfl
  | some x => exact toList_faultUnless ..

/-- The defects of an axis are the faults that its checks find. -/
theorem AxisSettings.defects_eq_filterMap (letter : Char) (axis : AxisSettings) :
    axis.defects letter = AxisCheck.inOrder.filterMap (AxisCheck.fault? letter axis) := by
  have hhoming : (axis.homing.map (HomingSettings.defects letter)).getD [] =
      [.feedRate, .seekRate, .seekScaler, .feedScaler].flatMap fun check ↦
        (AxisCheck.fault? letter axis check).toList := by
    simp only [List.flatMap_cons, List.flatMap_nil, AxisCheck.toList_fault?, AxisCheck.reading]
    cases axis.homing with
    | none => rfl
    | some homing => simp [HomingSettings.defects, AxisCheck.accepts, AxisCheck.fault]
  have hmotors : presentDefects axis.motors.toList (MotorSettings.defects letter) =
      (List.finRange slotsPerAxis).flatMap fun slot ↦
        (AxisCheck.fault? letter axis (.pulloff slot)).toList := by
    simp only [presentDefects_toList, AxisCheck.toList_fault?, AxisCheck.reading, Option.map_map]
    rfl
  rw [defects, hhoming, hmotors, List.filterMap_eq_flatMap_toList, AxisCheck.inOrder]
  simp [List.flatMap_map, AxisCheck.toList_fault?, AxisCheck.reading, AxisCheck.accepts,
    AxisCheck.fault]

/-! ### The checks of a machine -/

/-- The single checks of a machine. -/
inductive Check
  | pulseWidth
  | timerFrequency
  | homingRuns
  | onAxis (index : Fin maxAxes) (check : AxisCheck)

namespace Check

/-- All checks, in the order of reporting. -/
def inOrder : List Check :=
  [pulseWidth, timerFrequency, homingRuns] ++
    (List.finRange maxAxes).flatMap fun index ↦ AxisCheck.inOrder.map (onAxis index)

/-- What the check demands. Nothing is demanded of an axis or a section that is absent. -/
def Holds (settings : MachineSettings) : Check → Prop
  | pulseWidth => 0 < settings.stepping.pulseWidth
  | timerFrequency => 0 < settings.stepping.timerFrequency
  | homingRuns => 1 ≤ settings.axes.homingRuns.toNat ∧ settings.axes.homingRuns.toNat ≤ 5
  | onAxis index check => ∀ axis x, settings.axes.axis? index = some axis →
      check.reading axis = some x → check.Passes x

/-- The fault that is reported where the check does not hold. -/
inductive Reports (settings : MachineSettings) : Check → ConfigFault → Prop
  | pulseWidth (fails : ¬ pulseWidth.Holds settings) :
      Reports settings pulseWidth (.pulseWidth settings.stepping.pulseWidth.toNat)
  | timerFrequency (fails : ¬ timerFrequency.Holds settings) :
      Reports settings timerFrequency (.timerFrequency settings.stepping.timerFrequency.toNat)
  | homingRuns (fails : ¬ homingRuns.Holds settings) :
      Reports settings homingRuns (.homingRuns settings.axes.homingRuns.toNat)
  | onAxis {index : Fin maxAxes} {check : AxisCheck} {axis : AxisSettings} {x : Single}
      (present : settings.axes.axis? index = some axis) (read : check.reading axis = some x)
      (fails : ¬ check.Passes x) :
      Reports settings (onAxis index check) (check.fault (axisLetter index) x)

/-- The fault that the check finds. -/
def fault? (settings : MachineSettings) : Check → Option ConfigFault
  | pulseWidth => faultUnless (settings.stepping.pulseWidth != 0)
      (.pulseWidth settings.stepping.pulseWidth.toNat)
  | timerFrequency => faultUnless (settings.stepping.timerFrequency != 0)
      (.timerFrequency settings.stepping.timerFrequency.toNat)
  | homingRuns => faultUnless
      (homingRunsRange.1 ≤ settings.axes.homingRuns.toNat &&
        settings.axes.homingRuns.toNat ≤ homingRunsRange.2)
      (.homingRuns settings.axes.homingRuns.toNat)
  | onAxis index check =>
      (settings.axes.axis? index).bind fun axis ↦ check.fault? (axisLetter index) axis

theorem mem_inOrder (check : Check) : check ∈ inOrder := by
  cases check with
  | onAxis index check =>
    refine List.mem_append_right _ (List.mem_flatMap.mpr ⟨index, List.mem_finRange index, ?_⟩)
    exact List.mem_map_of_mem check.mem_inOrder
  | _ => simp [inOrder]

variable {settings : MachineSettings} {check : Check} {fault : ConfigFault}

theorem fault?_eq_none_iff : check.fault? settings = none ↔ check.Holds settings := by
  cases check with
  | pulseWidth | timerFrequency =>
    simp only [fault?, faultUnless_eq_none_iff, bne_iff_ne, Holds, UInt32.pos_iff_ne_zero]
  | homingRuns =>
    simp only [fault?, faultUnless_eq_none_iff, Bool.and_eq_true, decide_eq_true_iff]
    exact Iff.rfl
  | onAxis index check =>
    simp only [fault?, Option.bind_eq_none_iff, AxisCheck.fault?_eq_none_iff, Holds]
    constructor
    · exact fun h axis x hpresent ↦ h axis hpresent x
    · exact fun h axis hpresent x ↦ h axis x hpresent

theorem fault?_eq_some_iff : check.fault? settings = some fault ↔ check.Reports settings fault := by
  have hfails (found : check.fault? settings = some fault) : ¬ check.Holds settings := by
    rw [← fault?_eq_none_iff, found]
    exact Option.some_ne_none fault
  constructor
  · intro found
    cases check with
    | pulseWidth | timerFrequency | homingRuns =>
      obtain ⟨-, rfl⟩ := faultUnless_eq_some_iff.mp found
      constructor
      exact hfails found
    | onAxis index check =>
      obtain ⟨axis, hpresent, haxis⟩ := Option.bind_eq_some_iff.mp found
      obtain ⟨x, hread, hpasses, rfl⟩ := AxisCheck.fault?_eq_some_iff.mp haxis
      exact .onAxis hpresent hread hpasses
  · intro reports
    cases reports with
    | pulseWidth fails | timerFrequency fails | homingRuns fails =>
      rw [← fault?_eq_none_iff, fault?, faultUnless_eq_none_iff] at fails
      exact faultUnless_eq_some_iff.mpr ⟨fails, rfl⟩
    | onAxis hpresent hread hpasses =>
      refine Option.bind_eq_some_iff.mpr ⟨_, hpresent, ?_⟩
      exact AxisCheck.fault?_eq_some_iff.mpr ⟨_, hread, hpasses, rfl⟩

end Check

namespace MachineSettings

/-- The defects of a machine are the faults that its checks find. -/
theorem defects_eq_filterMap (settings : MachineSettings) :
    settings.defects = Check.inOrder.filterMap (Check.fault? settings) := by
  have haxes : presentDefects settings.axes.axes.toList
      (fun index ↦ AxisSettings.defects (axisLetter index)) =
      ((List.finRange maxAxes).flatMap fun index ↦
        AxisCheck.inOrder.map (Check.onAxis index)).filterMap (Check.fault? settings) := by
    rw [presentDefects_toList, List.filterMap_flatMap]
    congr
    funext index
    rw [List.filterMap_map]
    change ((settings.axes.axis? index).map _).getD [] = AxisCheck.inOrder.filterMap fun check ↦
      (settings.axes.axis? index).bind (check.fault? (axisLetter index))
    cases settings.axes.axis? index with
    | none => simp
    | some axis => exact axis.defects_eq_filterMap _
  rw [defects, SteppingSettings.defects, AxesSettings.defects, haxes, Check.inOrder,
    List.filterMap_append, List.filterMap_eq_flatMap_toList _ [_, _, _]]
  simp only [List.flatMap_cons, List.flatMap_nil, Check.fault?, toList_faultUnless,
    List.append_assoc, List.nil_append]

/-- Settings are accepted exactly if every check holds. Otherwise the first check that does not is
reported, with the number it was made on and the axis and slot of that number. -/
theorem validate_first_defect (settings : MachineSettings) :
    (settings.validate = .ok () ↔ ∀ check : Check, check.Holds settings) ∧
      ∀ fault, settings.validate = .error fault ↔
        ∃ earlier check later, Check.inOrder = earlier ++ check :: later ∧
          (∀ before ∈ earlier, before.Holds settings) ∧ check.Reports settings fault := by
  have hhead (fault : ConfigFault) : settings.validate = .error fault ↔
      Check.inOrder.findSome? (Check.fault? settings) = some fault := by
    rw [← List.head?_filterMap, ← defects_eq_filterMap, validate]
    cases settings.defects <;> simp
  constructor
  · have hnil : settings.validate = .ok () ↔ settings.defects = [] := by
      rw [validate_eq_ok_iff, defects_eq_nil_iff]
    rw [hnil, defects_eq_filterMap, List.filterMap_eq_nil_iff]
    simp only [Check.fault?_eq_none_iff, Check.mem_inOrder, forall_const]
  · intro fault
    rw [hhead, List.findSome?_eq_some_iff]
    simp only [Check.fault?_eq_none_iff, Check.fault?_eq_some_iff, and_comm]

end MachineSettings

end MotionControl
