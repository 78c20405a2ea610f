import MotionControl.Proofs.Registry.Configuration
import MotionControl.Proofs.Registry.Session

/-!
# The axis table is fixed

Once a registry is assembled, its table stays as it is: bringing it up and every operation on it,
whether or not it fails, change drivers and lines only (`Registry.SameTable`). So everything that
is read off the table stays the same too (`Registry.SameTable.reads`): the settings of the axes,
the slots that are taken, the axes with hard limits, and what letters and masks are turned into.
The axes that are homed towards the negative end are none until the registry is brought up, and are
the same from then on (`Builder.finish_keeps`).

The mark and the suppressed steps are shared with others, who may change them between two
operations; a run (`Registry.after`) therefore takes them from outside with every call.
-/

set_option autoImplicit false
set_option relaxedAutoImplicit false

namespace MotionControl

variable {D : Type}

/-- What a motor has besides its driver. -/
def Motor.limits (motor : Motor D) : Bool × Length := (motor.hardLimits, motor.pulloff)

namespace Registry

variable {stage stage' stage'' : Stage}

/-! ### Registries with the same table -/

/-- Two registries have the same table: their axes differ in drivers at most, and what the axes
share is the same, but for the lines. -/
structure SameTable (registry : Registry stage D) (later : Registry stage' D) : Prop where
  axes : later.axes.map Axis.bare = registry.axes.map Axis.bare
  motors : ∀ place,
    (later.motor? place).map Motor.limits = (registry.motor? place).map Motor.limits
  homingRuns : later.homingRuns = registry.homingRuns
  disableDelay : later.disableDelay = registry.disableDelay

namespace SameTable

variable {registry : Registry stage D} {later : Registry stage' D}

theorem refl (registry : Registry stage D) : registry.SameTable registry :=
  ⟨rfl, fun _ ↦ rfl, rfl, rfl⟩

theorem trans {last : Registry stage'' D} (same : registry.SameTable later)
    (same' : later.SameTable last) : registry.SameTable last where
  axes := same'.axes.trans same.axes
  motors place := (same'.motors place).trans (same.motors place)
  homingRuns := same'.homingRuns.trans same.homingRuns
  disableDelay := same'.disableDelay.trans same.disableDelay

theorem length_axes (same : registry.SameTable later) :
    later.axes.length = registry.axes.length := by
  rw [← List.length_map (f := Axis.bare), same.axes, List.length_map]

theorem letters (same : registry.SameTable later) : later.letters = registry.letters := by
  rw [Registry.letters, same.length_axes, Registry.letters]

theorem exists_axis? (same : registry.SameTable later) {index : Nat} {axis : Axis D}
    (h : registry.axis? index = some axis) :
    ∃ axis', later.axis? index = some axis' ∧ axis'.bare = axis.bare := by
  have hbare : (later.axis? index).map Axis.bare = some axis.bare := by
    rw [axis?, ← List.getElem?_map, same.axes, List.getElem?_map, ← axis?, h, Option.map_some]
  exact Option.map_eq_some_iff.mp hbare

theorem hardLimitMask (same : registry.SameTable later) :
    later.hardLimitMask = registry.hardLimitMask := by
  have hlimits {stage : Stage} (registry : Registry stage D) (index : Nat) :
      registry.hardLimitMask.contains index = true ↔
        index < 8 ∧ ∃ slot limits,
          (registry.motor? ⟨index, slot⟩).map Motor.limits = some limits ∧ limits.1 = true := by
    rw [contains_hardLimitMask]
    refine and_congr_right fun _ ↦ exists_congr fun slot ↦ ?_
    cases registry.motor? ⟨index, slot⟩ <;> simp [Motor.limits]
  refine AxisMask.ext_contains fun index ↦ ?_
  rw [hlimits, hlimits]
  simp only [same.motors]

end SameTable

/-- What is read off the table of a registry is also read off a later one. -/
structure ReadsAlike (registry : Registry stage D) (later : Registry stage' D) : Prop where
  count : later.axes.length = registry.axes.length
  letters : later.letters = registry.letters
  axis : ∀ index axis, registry.axis? index = some axis →
    ∃ axis', later.axis? index = some axis' ∧ axis'.index = axis.index ∧
      axis'.stepsPerMm = axis.stepsPerMm ∧ axis'.maxRate = axis.maxRate ∧
      axis'.acceleration = axis.acceleration ∧ axis'.maxTravel = axis.maxTravel ∧
      axis'.homing = axis.homing ∧ axis'.travelLimits = axis.travelLimits
  /-- The same slots are taken, by motors with the same limits. -/
  motors : ∀ place,
    (later.motor? place).map Motor.limits = (registry.motor? place).map Motor.limits
  homingRuns : later.homingRuns = registry.homingRuns
  disableDelay : later.disableDelay = registry.disableDelay
  hardLimitMask : later.hardLimitMask = registry.hardLimitMask
  axisNames : ∀ mask : AxisMask, mask.letters later.letters = mask.letters registry.letters
  motorNames : ∀ mask : MotorMask, mask.letters later.letters = mask.letters registry.letters
  resolutions : ∀ text,
    Resolution.ofText later.letters text = Resolution.ofText registry.letters text

theorem SameTable.reads {registry : Registry stage D} {later : Registry stage' D}
    (same : registry.SameTable later) : registry.ReadsAlike later := by
  constructor
  case count => exact same.length_axes
  case letters => exact same.letters
  case axis =>
    intro index axis haxis
    obtain ⟨axis', haxis', hbare⟩ := same.exists_axis? haxis
    -- Everything but the motors is part of the bare axis, and the travel limits follow from it.
    exact ⟨axis', haxis', (congrArg Axis.index hbare :), (congrArg Axis.stepsPerMm hbare :),
      (congrArg Axis.maxRate hbare :), (congrArg Axis.acceleration hbare :),
      (congrArg Axis.maxTravel hbare :), (congrArg Axis.homing hbare :),
      (congrArg Axis.travelLimits hbare :)⟩
  case motors => exact same.motors
  case homingRuns => exact same.homingRuns
  case disableDelay => exact same.disableDelay
  case hardLimitMask => exact same.hardLimitMask
  case axisNames => exact fun mask ↦ by rw [same.letters]
  case motorNames => exact fun mask ↦ by rw [same.letters]
  case resolutions => exact fun text ↦ by rw [same.letters]

/-! ### What keeps the table -/

theorem sameTable_reach (registry : Registry stage D) (reached : Place → Bool) (change : D → D) :
    registry.SameTable (registry.reach reached change) where
  axes := congrArg Registry.axes (registry.bare_reach reached change)
  motors place := by
    rw [motor?_reach, Option.map_map]
    refine congrArg (Option.map · _) (funext fun motor ↦ ?_)
    cases reached place <;> rfl
  homingRuns := rfl
  disableDelay := rfl

variable [MotorDriver D]

theorem sameTable_bringUp {assembled : Registry .parsed D} {registry : Registry .ready D}
    (h : assembled.bringUp.1 = .ok registry) : assembled.SameTable registry where
  axes := by
    rw [bringUp_eq_ok h]
    simp only [atStage, mapDrivers, List.map_map]
    rfl
  motors place := by
    rw [motor?_bringUp h, Option.map_map]
    rfl
  homingRuns := by
    rw [bringUp_eq_ok h]
    rfl
  disableDelay := by
    rw [bringUp_eq_ok h]
    rfl

end Registry

variable [MotorDriver D]

/-- An operation keeps the table and the axes that are homed towards the negative end, whatever it
answers. -/
theorem ReadyOp.sameTable_perform (op : ReadyOp) (state : MachineState D) :
    state.registry.SameTable (op.perform state).state.registry ∧
      (op.perform state).state.registry.homingDirections = state.registry.homingDirections := by
  rw [perform_registry]
  obtain ⟨haxes, hmotors, hruns, hdelay⟩ := state.registry.sameTable_reach
    (op.reaches state.registry.axes.length) (op.command?.elim id DriverCommand.apply)
  exact ⟨⟨haxes, hmotors, hruns, hdelay⟩, rfl⟩

/-! ### Runs -/

/-- A call of an operation, with the mark and the suppressed steps as it finds them. -/
structure ReadyCall where
  op : ReadyOp
  mark : DisabledMark
  suppression : Suppression

namespace Registry

/-- What a call leaves of a registry. -/
def afterCall (registry : Registry .ready D) (call : ReadyCall) : Registry .ready D :=
  (call.op.perform ⟨registry, call.mark, call.suppression⟩).state.registry

/-- What calls, one after the other, leave of a registry. -/
def after (registry : Registry .ready D) (calls : List ReadyCall) : Registry .ready D :=
  calls.foldl afterCall registry

theorem sameTable_after (registry : Registry .ready D) (calls : List ReadyCall) :
    registry.SameTable (registry.after calls) ∧
      (registry.after calls).homingDirections = registry.homingDirections := by
  induction calls generalizing registry with
  | nil => exact ⟨.refl registry, rfl⟩
  | cons call calls ih =>
    obtain ⟨hsame, hdirections⟩ := call.op.sameTable_perform ⟨registry, call.mark, call.suppression⟩
    obtain ⟨hsame', hdirections'⟩ := ih (registry.afterCall call)
    exact ⟨hsame.trans hsame', hdirections'.trans hdirections⟩

end Registry

/-- From the assembled registry on, through bringing it up and through any calls, successful or not,
everything that is read off the table stays as it is. The axes that are homed towards the negative
end are determined when the registry is brought up, and never change afterwards. -/
theorem Builder.finish_keeps (builder : Builder D) :
    builder.finish.homingDirections = .empty ∧
      ∀ registry, builder.finish.bringUp.1 = .ok registry → ∀ calls : List ReadyCall,
        builder.finish.ReadsAlike (registry.after calls) ∧
          (registry.after calls).homingDirections = Registry.negativeHomes builder.finish.axes := by
  refine ⟨rfl, fun registry up calls ↦ ?_⟩
  obtain ⟨hsame, hdirections⟩ := registry.sameTable_after calls
  refine ⟨((Registry.sameTable_bringUp up).trans hsame).reads, hdirections.trans ?_⟩
  rw [Registry.bringUp_eq_ok up]

/-- The second of three axes has a primary motor with hard limits and is homed towards the negative
end; the first write to the disable line fails. -/
def failingLine : Builder NullMotor :=
  let second : AxisSettings :=
    { homing := some { positiveDirection := false }, motors := #v[some {}, none] }
  { axes := #v[none, some (.ofSection 1 second fun _ ↦ some {}), none, none, none, none]
    disableLine := some (.wired [true]) }

/-- A failed disabling of all motors, an axis that does not exist, and homing of two axes. -/
def mixedOps : List ReadyCall :=
  [⟨.switchAll true, {}, .empty⟩, ⟨.switchAxis 7 true, ⟨true⟩, .empty⟩,
    ⟨.homing ⟨0b11⟩ true, ⟨true⟩, ⟨⟨0xffff⟩⟩⟩]

theorem Builder.finish_keeps_failingLine :
    failingLine.finish.homingDirections = .empty ∧
      ∃ registry, failingLine.finish.bringUp.1 = .ok registry ∧
        ((ReadyOp.switchAll true).perform { registry }).answer = .switched (.error .line) ∧
        failingLine.finish.ReadsAlike (registry.after mixedOps) ∧
        (registry.after mixedOps).hardLimitMask.toList = [1] ∧
        (registry.after mixedOps).homingDirections.toList = [1] := by
  obtain ⟨hempty, hkeeps⟩ := finish_keeps failingLine
  have up : ∃ registry, failingLine.finish.bringUp.1 = .ok registry := ⟨_, rfl⟩
  obtain ⟨registry, hregistry⟩ := up
  obtain ⟨hreads, hdirections⟩ := hkeeps registry hregistry mixedOps
  have hlimits : failingLine.finish.hardLimitMask.toList = [1] := by decide +kernel
  have hnegative : (Registry.negativeHomes failingLine.finish.axes).toList = [1] := by
    decide +kernel
  refine ⟨hempty, registry, hregistry, ?_, hreads, ?_, ?_⟩
  · cases hregistry
    rfl
  · rw [hreads.hardLimitMask, hlimits]
  · rw [hdirections, hnegative]

end MotionControl
