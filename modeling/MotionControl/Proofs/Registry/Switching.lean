import MotionControl.Proofs.Registry.Reach
import MotionControl.Registry.Disable

/-!
# Switching motors

The disabling and enabling of motors reaches all drivers of one axis or of all axes.
`Registry.setDisableAxis_eq` and `Registry.setDisable_eq` say which places are reached, which
commands are sent, and what becomes of the mark and of the disable line.
-/

set_option autoImplicit false
set_option relaxedAutoImplicit false

namespace MotionControl.Registry

variable {D : Type} [MotorDriver D]

/-- The commands that disable or enable the motors of some places. -/
def switchEvents (disable : Bool) (places : List Place) : List MachineEvent :=
  places.map (MachineEvent.driver · (.setDisable disable))

theorem switchAxis_answer (registry : Registry .ready D) (index : Nat) (disable : Bool) :
    (registry.switchAxis index disable).answer = decide (index < registry.axes.length) := by
  unfold switchAxis
  split
  next h => exact (decide_eq_false (Nat.not_lt.mpr (List.getElem?_eq_none_iff.mp h))).symm
  next h => exact (decide_eq_true (List.getElem?_eq_some_iff.mp h).1).symm

theorem switchAxis_state (registry : Registry .ready D) (index : Nat) (disable : Bool) :
    (registry.switchAxis index disable).state =
      registry.reach (fun place ↦ place.axis == index) (MotorDriver.setDisable disable) := by
  unfold switchAxis
  split
  next hnone =>
    refine (reach_of_forall_eq_false fun place motor hmotor ↦ ?_).symm
    obtain ⟨axis, haxis, -⟩ := Option.bind_eq_some_iff.mp hmotor
    refine beq_false_of_ne fun hplace ↦ ?_
    rw [hplace] at haxis
    exact Option.some_ne_none axis (haxis.symm.trans hnone)
  next axis haxis =>
    have hmodify : registry.modifyAxis index
          (fun _ ↦ (axis.commandAll (.setDisable disable)).state) =
        registry.reach (fun place ↦ place.axis == index && true)
          (MotorDriver.setDisable disable) := by
      refine modifyAxis_eq_reach (fun _ ↦ true) fun other hother ↦ ?_
      obtain rfl := Option.some_inj.mp (hother.symm.trans haxis)
      rw [Axis.commandAll_eq, Axis.mapDrivers_eq_reach]
      rfl
    exact hmodify.trans (reach_congr fun place _ _ ↦ Bool.and_true _)

theorem switchAxis_events (registry : Registry .ready D) (index : Nat) (disable : Bool) :
    (registry.switchAxis index disable).events =
      switchEvents disable (registry.placesAt [index]) := by
  unfold switchAxis placesAt
  cases h : registry.axis? index with
  | none => simp [Outcome.still, switchEvents, h]
  | some axis => simp [switchEvents, h, Axis.commandAll_eq]

theorem setDisableAxis_eq (registry : Registry .ready D) (index : Nat) (disable : Bool)
    (mark : DisabledMark) :
    registry.setDisableAxis index disable mark =
      { answer := ()
        state := (registry.reach (fun place ↦ place.axis == index) (MotorDriver.setDisable disable),
          ⟨mark.isSet || disable && decide (index < registry.axes.length)⟩)
        events := switchEvents disable (registry.placesAt [index]) } := by
  rw [setDisableAxis, switchAxis_answer, switchAxis_state, switchAxis_events]
  have hmark : (if (decide (index < registry.axes.length) && disable) = true then mark.mark
      else mark) = ⟨mark.isSet || disable && decide (index < registry.axes.length)⟩ := by
    cases disable <;> cases decide (index < registry.axes.length) <;>
      simp [DisabledMark.mark]
  rw [hmark]

/-- Switching the axes of a list of indices. The mark is set if motors of any axis were disabled. -/
theorem setDisableAxes_eq (disable : Bool) {indices : List Nat} (nodup : indices.Nodup)
    (registry : Registry .ready D) (mark : DisabledMark) :
    setDisableAxes disable indices registry mark =
      { answer := ()
        state := (registry.reach (fun place ↦ indices.contains place.axis)
            (MotorDriver.setDisable disable),
          ⟨mark.isSet || disable && indices.any (· < registry.axes.length)⟩)
        events := switchEvents disable (registry.placesAt indices) } := by
  induction indices generalizing registry mark with
  | nil => simp [setDisableAxes, Outcome.still, switchEvents, placesAt, reach_of_forall_eq_false]
  | cons index indices ih =>
    obtain ⟨hnotMem, hnodup⟩ := List.nodup_cons.mp nodup
    have hdisjoint : ∀ place : Place, (place.axis == index) = true →
        indices.contains place.axis = false := by
      intro place hplace
      rw [eq_of_beq hplace]
      simpa using hnotMem
    have hevents : switchEvents disable (registry.placesAt (index :: indices)) =
        switchEvents disable (registry.placesAt [index]) ++
          switchEvents disable (registry.placesAt indices) := by
      simp [switchEvents, placesAt]
    rw [setDisableAxes, setDisableAxis_eq, ih hnodup, reach_reach _ hdisjoint, hevents,
      placesAt_reach, length_axes_reach]
    rw [Bool.or_assoc, ← Bool.and_or_distrib_left]
    rfl

/-- Switching all motors. The commands to the drivers precede the write to the disable line, and
whether it succeeds decides about the answer and about the mark. -/
theorem setDisable_eq (registry : Registry .ready D) (disable : Bool) (mark : DisabledMark) :
    registry.setDisable disable mark =
      { answer :=
          if (SharedOutput.disable.drive disable registry.disableLine).answer then
            .ok (if !disable && mark.isSet then ⟨registry.disableDelay⟩ else .none)
          else .error .line
        state :=
          ({ registry.reach (fun _ ↦ true) (MotorDriver.setDisable disable) with
              disableLine := (SharedOutput.disable.drive disable registry.disableLine).state },
            ⟨if !disable && (SharedOutput.disable.drive disable registry.disableLine).answer then
                false
              else mark.isSet || disable && decide (0 < registry.axes.length)⟩)
        events := switchEvents disable registry.places ++
          (SharedOutput.disable.drive disable registry.disableLine).events } := by
  have hreached : registry.reach (fun place ↦ (List.range registry.axes.length).contains place.axis)
        (MotorDriver.setDisable disable) =
      registry.reach (fun _ ↦ true) (MotorDriver.setDisable disable) :=
    reach_congr fun place motor hmotor ↦ by simpa using axis_lt_of_motor? hmotor
  have hany : (List.range registry.axes.length).any (· < registry.axes.length) =
      decide (0 < registry.axes.length) := by
    cases registry.axes with
    | nil => rfl
    | cons axis axes =>
      have hfirst : 0 ∈ List.range (axis :: axes).length := List.mem_range.mpr (Nat.zero_lt_succ _)
      exact (List.any_eq_true.mpr ⟨0, hfirst, decide_eq_true (Nat.zero_lt_succ _)⟩).trans rfl
  rw [setDisable, setDisableAxes_eq disable List.nodup_range, hreached, hany, placesAt_range]
  have hline (reached : Place → Bool) (change : D → D) :
      (registry.reach reached change).disableLine = registry.disableLine := rfl
  simp only [hline]
  obtain ⟨written, line, events⟩ := SharedOutput.disable.drive disable registry.disableLine
  cases written with
  | false => cases disable <;> rfl
  | true =>
    cases disable with
    | false => simp [DisabledMark.take, reach]
    | true => simp [reach]

end MotionControl.Registry
