import MotionControl.Proofs.Mask.Axis
import MotionControl.Proofs.Registry.AxisTable
import MotionControl.Proofs.Registry.DriverRequests

/-!
# From settings to a registry that is up

A builder that takes over the settings of a machine, and nothing else, assembles a registry that can
always be brought up. Section by section, index by index and slot by slot, the registry is what the
settings have (`Registry.Configured`). The two masks of the registry are gathered in different ways,
one by the position of the axes and one by the index that each axis carries; since every axis stands
at its index, both hold the indices of sections.
-/

set_option autoImplicit false
set_option relaxedAutoImplicit false

namespace MotionControl

variable {σ D : Type}

/-! ### One axis -/

theorem Axis.motor?_mapDrivers (axis : Axis D) (change : D → D) (slot : Nat) :
    (axis.mapDrivers change).motor? slot = (axis.motor? slot).map (Motor.mapDriver change) := by
  rw [mapDrivers_eq_reach, motor?_reach]
  rfl

theorem Axis.mapDrivers_mapDrivers (axis : Axis D) (first second : D → D) :
    (axis.mapDrivers first).mapDrivers second = axis.mapDrivers (second ∘ first) := by
  refine ext_motor? (fun slot ↦ ?_) rfl
  rw [motor?_mapDrivers, motor?_mapDrivers, motor?_mapDrivers, Option.map_map]
  rfl

theorem Axis.hardLimits_iff {axis : Axis D} :
    axis.hardLimits = true ↔
      ∃ slot motor, axis.motor? slot = some motor ∧ motor.hardLimits = true := by
  rw [hardLimits, motorList, List.any_eq_true]
  constructor
  · rintro ⟨motor, hmem, hlimits⟩
    obtain ⟨entry, hentry, hsome⟩ := List.mem_filterMap.mp hmem
    obtain ⟨slot, hslot⟩ := List.mem_iff_getElem?.mp hentry
    rw [Vector.getElem?_toList] at hslot
    refine ⟨slot, motor, ?_, hlimits⟩
    rw [motor?, hslot]
    exact hsome
  · rintro ⟨slot, motor, hmotor, hlimits⟩
    refine ⟨motor, List.mem_filterMap.mpr ⟨some motor, ?_, rfl⟩, hlimits⟩
    have hslot := Option.join_eq_some_iff.mp hmotor
    rw [← Vector.getElem?_toList] at hslot
    exact List.mem_of_getElem? hslot

theorem Axis.homesNegative_iff {axis : Axis D} :
    axis.homesNegative = true ↔
      ∃ homing, axis.homing = some homing ∧ homing.positiveDirection = false := by
  rw [homesNegative]
  cases axis.homing <;> simp

namespace Registry

variable {stage : Stage}

/-! ### The masks -/

/-- The axes with hard limits are those with a motor that applies them. -/
theorem contains_hardLimitMask {registry : Registry stage D} {index : Nat} :
    registry.hardLimitMask.contains index = true ↔
      index < 8 ∧ ∃ slot motor, registry.motor? ⟨index, slot⟩ = some motor ∧
        motor.hardLimits = true := by
  have hgathered := AxisMask.contains_foldl_insert
    (fun entry : Axis D × Nat ↦ entry.1.hardLimits) Prod.snd registry.axes.zipIdx .empty index
  rw [AxisMask.contains_empty, or_iff_right Bool.false_ne_true] at hgathered
  refine hgathered.trans (and_congr_right fun _ ↦ ?_)
  constructor
  · rintro ⟨⟨axis, position⟩, hmem, hlimits, rfl⟩
    obtain ⟨slot, motor, hmotor, happlies⟩ := Axis.hardLimits_iff.mp hlimits
    have haxis : registry.axis? position = some axis := List.mem_zipIdx_iff_getElem?.mp hmem
    exact ⟨slot, motor, Option.bind_eq_some_iff.mpr ⟨axis, haxis, hmotor⟩, happlies⟩
  · rintro ⟨slot, motor, hmotor, happlies⟩
    obtain ⟨axis, haxis, hslot⟩ := Option.bind_eq_some_iff.mp hmotor
    have hlimits : axis.hardLimits = true := Axis.hardLimits_iff.mpr ⟨slot, motor, hslot, happlies⟩
    exact ⟨(axis, index), List.mem_zipIdx_iff_getElem?.mpr haxis, hlimits, rfl⟩

/-- The axes that are homed towards the negative end, if every axis stands at its index. -/
theorem InPlace.contains_negativeHomes {registry : Registry stage D} (inPlace : registry.InPlace)
    {index : Nat} :
    (negativeHomes registry.axes).contains index = true ↔
      index < 8 ∧ ∃ axis, registry.axis? index = some axis ∧ axis.homesNegative = true := by
  have hgathered := AxisMask.contains_foldl_insert Axis.homesNegative Axis.index registry.axes
    .empty index
  rw [AxisMask.contains_empty, or_iff_right Bool.false_ne_true] at hgathered
  refine hgathered.trans (and_congr_right fun _ ↦ ?_)
  constructor
  · rintro ⟨axis, hmem, hnegative, rfl⟩
    obtain ⟨position, hposition⟩ := List.mem_iff_getElem?.mp hmem
    have haxis : axis.index = position := inPlace position axis hposition
    exact ⟨axis, haxis ▸ hposition, hnegative⟩
  · rintro ⟨axis, haxis, hnegative⟩
    exact ⟨axis, List.mem_of_getElem? haxis, hnegative, inPlace index axis haxis⟩

/-! ### Bringing it up -/

variable [MotorDriver D]

/-- What bringing a driver up and configuring its motor makes of it. -/
def broughtUp (driver : D) : D := MotorDriver.configure (MotorDriver.init driver)

theorem axis?_bringUp {assembled : Registry .parsed D} {registry : Registry .ready D}
    (h : assembled.bringUp.1 = .ok registry) (index : Nat) :
    registry.axis? index = (assembled.axis? index).map (Axis.mapDrivers · broughtUp) := by
  rw [bringUp_eq_ok h]
  simp only [axis?, atStage, mapDrivers, List.getElem?_map, Option.map_map]
  exact congrArg (Option.map · _) (funext fun axis ↦ axis.mapDrivers_mapDrivers ..)

theorem motor?_bringUp {assembled : Registry .parsed D} {registry : Registry .ready D}
    (h : assembled.bringUp.1 = .ok registry) (place : Place) :
    registry.motor? place = (assembled.motor? place).map (Motor.mapDriver broughtUp) := by
  rw [motor?, axis?_bringUp h, motor?]
  cases assembled.axis? place.axis with
  | none => rfl
  | some axis => exact axis.motor?_mapDrivers broughtUp place.slot

/-- Without a reset line, nothing can fail. -/
theorem exists_bringUp {assembled : Registry .parsed D} (h : assembled.resetLine = none) :
    ∃ registry, assembled.bringUp.1 = .ok registry := by
  rw [bringUp_eq, h]
  exact ⟨_, rfl⟩

end Registry

/-! ### The registry that settings come to -/

namespace Builder

variable {settings : MachineSettings} {source : DriverSource σ D} {supply : σ}
  {builder : Builder D}

/-- A builder that took over settings, and nothing else, has the axes of the settings. -/
theorem axes_of_addSettings
    (h : (({} : Builder D).addSettings settings source supply).answer = .ok builder)
    (index : Nat) : builder.axes[index]?.join = configured? settings source supply index := by
  rw [(addSettings_ok h).2 index]
  cases configured? settings source supply index with
  | none => exact join_axes_empty index
  | some axis => rfl

/-- The registry that settings come to has the motors of their sections. -/
theorem motor?_of_addSettings
    (h : (({} : Builder D).addSettings settings source supply).answer = .ok builder)
    (place : Place) :
    builder.finish.motor? place = (settings.axes.motor? place).bind fun motor ↦
      ((source.deal settings.axes.requests supply).1 place).map (Motor.ofSettings · motor) := by
  rw [motor?_finish, axes_of_addSettings h, configured?, AxesSettings.motor?]
  cases settings.axes.axis? place.axis with
  | none => rfl
  | some axis => exact Axis.motor?_ofSection ..

/-- The registry that settings come to has the axes of their sections, and otherwise such as hold by
default. -/
theorem bare_axis?_of_addSettings
    (h : (({} : Builder D).addSettings settings source supply).answer = .ok builder)
    {index : Nat} {axis : Axis D} (haxis : builder.finish.axis? index = some axis) :
    axis.bare = .ofSettings index ((settings.axes.axis? index).getD {}) := by
  rw [axis?_finish, axes_of_addSettings h, configured?] at haxis
  split at haxis
  next =>
    cases haxis
    cases settings.axes.axis? index <;> rfl
  next => cases haxis

theorem isSome_axis?_of_addSettings
    (h : (({} : Builder D).addSettings settings source supply).answer = .ok builder)
    {index : Nat} {configured : AxisSettings}
    (hconfigured : settings.axes.axis? index = some configured) :
    (builder.finish.axis? index).isSome = true := by
  have hindex := axes_of_addSettings h index
  rw [configured?, hconfigured, Option.map_some] at hindex
  rw [axis?_finish, if_pos (lt_axisCount hindex)]
  rfl

end Builder

namespace Registry

variable [MotorDriver D]

/-- What a registry is that was brought up from settings. -/
structure Configured (settings : MachineSettings) (registry : Registry .ready D) : Prop where
  /-- A slot has a motor exactly if the section of the axis has one for the slot, and then the motor
  has the limits of that section. -/
  motors : ∀ place,
    (registry.motor? place).map (fun motor ↦ (motor.hardLimits, motor.pulloff)) =
      (settings.axes.motor? place).map fun motor ↦ (motor.hardLimits, motor.pulloff)
  present : ∀ index, (settings.axes.axis? index).isSome = true →
    (registry.axis? index).isSome = true
  /-- An axis has what its section says, or what holds by default. -/
  axis : ∀ index axis, registry.axis? index = some axis →
    axis.index = index ∧
      axis.stepsPerMm = ((settings.axes.axis? index).getD {}).stepsPerMm ∧
      axis.maxRate = ((settings.axes.axis? index).getD {}).maxRate ∧
      axis.acceleration = ((settings.axes.axis? index).getD {}).acceleration ∧
      axis.maxTravel = ((settings.axes.axis? index).getD {}).maxTravel ∧
      axis.homing = ((settings.axes.axis? index).getD {}).homing
  hardLimits : ∀ index, registry.hardLimitMask.contains index = true ↔
    ∃ slot motor, settings.axes.motor? ⟨index, slot⟩ = some motor ∧ motor.hardLimits = true
  homingDirections : ∀ index, registry.homingDirections.contains index = true ↔
    ∃ homing, (settings.axes.axis? index).bind AxisSettings.homing = some homing ∧
      homing.positiveDirection = false
  homingRuns : registry.homingRuns = min (max settings.axes.homingRuns.toNat 1) 5
  disableDelay : registry.disableDelay = settings.stepping.disableDelay.toNat

variable {settings : MachineSettings} {source : DriverSource σ D} {supply : σ}
  {builder : Builder D} {registry : Registry .ready D}

/-- The motors of the registry have the limits of the settings, if there is a driver for each. -/
theorem limits_of_addSettings
    (supplies : ∀ supply place settings, (source supply place settings).1.isSome = true)
    (h : (({} : Builder D).addSettings settings source supply).answer = .ok builder)
    (up : builder.finish.bringUp.1 = .ok registry) (place : Place) :
    (registry.motor? place).map (fun motor ↦ (motor.hardLimits, motor.pulloff)) =
      (settings.axes.motor? place).map fun motor ↦ (motor.hardLimits, motor.pulloff) := by
  rw [motor?_bringUp up, Builder.motor?_of_addSettings h]
  cases hmotor : settings.axes.motor? place with
  | none => rfl
  | some motor =>
    have hsupplies := DriverSource.supplies_of_forall supplies settings.axes.requests supply
    have hsome := hsupplies.isSome_deal (AxesSettings.mem_requests hmotor)
    obtain ⟨driver, hdriver⟩ := Option.isSome_iff_exists.mp hsome
    rw [Option.bind_some, hdriver]
    rfl

theorem hardLimitMask_of_addSettings
    (supplies : ∀ supply place settings, (source supply place settings).1.isSome = true)
    (h : (({} : Builder D).addSettings settings source supply).answer = .ok builder)
    (up : builder.finish.bringUp.1 = .ok registry) (index : Nat) :
    registry.hardLimitMask.contains index = true ↔
      ∃ slot motor, settings.axes.motor? ⟨index, slot⟩ = some motor ∧ motor.hardLimits = true := by
  have hlimits (slot : Nat) := limits_of_addSettings supplies h up ⟨index, slot⟩
  rw [contains_hardLimitMask]
  constructor
  · rintro ⟨-, slot, motor, hmotor, happlies⟩
    have hslot := hlimits slot
    rw [hmotor] at hslot
    obtain ⟨configured, hconfigured, heq⟩ := Option.map_eq_some_iff.mp hslot.symm
    exact ⟨slot, configured, hconfigured, (congrArg Prod.fst heq).trans happlies⟩
  · rintro ⟨slot, configured, hconfigured, happlies⟩
    have hslot := hlimits slot
    rw [hconfigured] at hslot
    obtain ⟨motor, hmotor, heq⟩ := Option.map_eq_some_iff.mp hslot
    have hbuilt : registry.Built := ⟨builder, Builder.Assembled.empty.addSettings h, up⟩
    have hindex : index < maxAxes := (axis_lt_of_motor? hmotor).trans_le hbuilt.length_axes.2
    refine ⟨hindex.trans (by decide), slot, motor, hmotor, ?_⟩
    exact (congrArg Prod.fst heq).trans happlies

theorem homingDirections_of_addSettings
    (h : (({} : Builder D).addSettings settings source supply).answer = .ok builder)
    (up : builder.finish.bringUp.1 = .ok registry) (index : Nat) :
    registry.homingDirections.contains index = true ↔
      ∃ homing, (settings.axes.axis? index).bind AxisSettings.homing = some homing ∧
        homing.positiveDirection = false := by
  have hmask : registry.homingDirections = negativeHomes builder.finish.axes := by
    rw [bringUp_eq_ok up]
  have inPlace : builder.finish.InPlace :=
    InPlace.finish (Builder.Assembled.empty.addSettings h).inPlace
  have hhoming {axis : Axis D} (haxis : builder.finish.axis? index = some axis) :
      axis.homing = (settings.axes.axis? index).bind AxisSettings.homing := by
    have hbare : axis.homing = ((settings.axes.axis? index).getD {}).homing :=
      congrArg Axis.homing (Builder.bare_axis?_of_addSettings h haxis)
    rw [hbare]
    cases settings.axes.axis? index <;> rfl
  rw [hmask, inPlace.contains_negativeHomes]
  constructor
  · rintro ⟨-, axis, haxis, hnegative⟩
    obtain ⟨homing, hsome, hdirection⟩ := Axis.homesNegative_iff.mp hnegative
    exact ⟨homing, (hhoming haxis).symm.trans hsome, hdirection⟩
  · rintro ⟨homing, hsome, hdirection⟩
    obtain ⟨configured, hconfigured, -⟩ := Option.bind_eq_some_iff.mp hsome
    obtain ⟨axis, haxis⟩ := Option.isSome_iff_exists.mp
      (Builder.isSome_axis?_of_addSettings h hconfigured)
    have hlength : index < builder.finish.axes.length := (List.getElem?_eq_some_iff.mp haxis).1
    have hindex : index < maxAxes :=
      (builder.length_finish ▸ hlength).trans_le builder.axisCount_le_maxAxes
    refine ⟨hindex.trans (by decide), axis, haxis, ?_⟩
    exact Axis.homesNegative_iff.mpr ⟨homing, (hhoming haxis).trans hsome, hdirection⟩

/-- If there is a driver for every motor, settings come to a registry that is up and has what they
say. -/
theorem addSettings_configured
    (supplies : ∀ supply place settings, (source supply place settings).1.isSome = true)
    (settings : MachineSettings) (supply : σ) :
    ∃ builder registry, (({} : Builder D).addSettings settings source supply).answer = .ok builder ∧
      builder.finish.homingDirections = .empty ∧ builder.finish.bringUp.1 = .ok registry ∧
      Configured settings registry := by
  obtain ⟨builder, hbuilder⟩ := Builder.exists_addSettings supplies {} settings supply
  have hfields := (Builder.addSettings_ok hbuilder).1
  have hreset : builder.finish.resetLine = none := by
    rw [hfields]
    rfl
  obtain ⟨registry, hregistry⟩ := exists_bringUp hreset
  refine ⟨builder, registry, hbuilder, rfl, hregistry, ?_⟩
  constructor
  case motors => exact limits_of_addSettings supplies hbuilder hregistry
  case present =>
    intro index hsome
    obtain ⟨configured, hconfigured⟩ := Option.isSome_iff_exists.mp hsome
    rw [axis?_bringUp hregistry, Option.isSome_map]
    exact Builder.isSome_axis?_of_addSettings hbuilder hconfigured
  case axis =>
    intro index axis haxis
    rw [axis?_bringUp hregistry] at haxis
    obtain ⟨assembled, hassembled, rfl⟩ := Option.map_eq_some_iff.mp haxis
    have hbare := Builder.bare_axis?_of_addSettings hbuilder hassembled
    exact ⟨congrArg Axis.index hbare, congrArg Axis.stepsPerMm hbare, congrArg Axis.maxRate hbare,
      congrArg Axis.acceleration hbare, congrArg Axis.maxTravel hbare, congrArg Axis.homing hbare⟩
  case hardLimits => exact hardLimitMask_of_addSettings supplies hbuilder hregistry
  case homingDirections => exact homingDirections_of_addSettings hbuilder hregistry
  case homingRuns =>
    rw [bringUp_eq_ok hregistry, hfields]
    rfl
  case disableDelay =>
    rw [bringUp_eq_ok hregistry, hfields]
    rfl

/-- The second axis is homed towards the negative end and has a secondary motor with hard limits;
the fourth axis has a primary motor without. -/
def sparseSettings : MachineSettings :=
  let second : AxisSettings :=
    { homing := some { positiveDirection := false }, motors := #v[none, some { pulloff := ⟨2⟩ }] }
  let fourth : AxisSettings := { motors := #v[some { hardLimits := false }, none] }
  { stepping := { disableDelay := 30 }
    axes := { homingRuns := 7, axes := #v[none, some second, none, some fourth, none, none] } }

theorem addSettings_configured_sparseSettings : ∃ builder registry,
    (({} : Builder NullMotor).addSettings sparseSettings (fun asked _ _ ↦ (some {}, asked + 1))
        0).answer = .ok builder ∧
      builder.finish.homingDirections = .empty ∧ builder.finish.bringUp.1 = .ok registry ∧
      Configured sparseSettings registry ∧
      registry.axes.length = 4 ∧ registry.homingRuns = 5 ∧ registry.disableDelay = 30 ∧
      registry.hardLimitMask.toList = [1] ∧ registry.homingDirections.toList = [1] := by
  have supplies : ∀ (supply : Nat) (place : Place) (settings : MotorSettings),
      (some ({} : NullMotor), supply + 1).1.isSome = true := fun _ _ _ ↦ rfl
  obtain ⟨builder, registry, hbuilder, hempty, hregistry, hconfigured⟩ :=
    addSettings_configured supplies sparseSettings 0
  refine ⟨builder, registry, hbuilder, hempty, hregistry, hconfigured, ?_⟩
  cases hbuilder
  cases hregistry
  exact ⟨rfl, rfl, rfl, by decide +kernel, by decide +kernel⟩

end Registry

end MotionControl
