import Mathlib.Data.List.Induction
import MotionControl.Proofs.Registry.Session

/-!
# Sessions from any state

A session may start with the mark set and with steps suppressed (`Session.onward`). Wherever it
starts, it moves no motor: which motors are mounted, and where, stays as it was
(`Session.placesAt_onward`, `Session.mounted_onward`). What it makes of a driver is told by the
operations that reach the place of the driver (`Session.motor?_onward`).
-/

set_option autoImplicit false
set_option relaxedAutoImplicit false

namespace MotionControl

variable {D : Type}

namespace Registry

variable {stage : Stage}

theorem isSome_motor?_reach (registry : Registry stage D) (reached : Place → Bool)
    (change : D → D) (place : Place) :
    ((registry.reach reached change).motor? place).isSome = (registry.motor? place).isSome := by
  rw [motor?_reach, Option.isSome_map]

end Registry

variable [MotorDriver D]

namespace ReadyOp

/-- The operation with what it answers and does in a state. -/
def deedIn (op : ReadyOp) (state : MachineState D) : ReadyDeed :=
  ⟨op, (op.perform state).answer, (op.perform state).events⟩

/-- The command that an operation sends to the driver at a place, if it reaches the place. -/
def commandAt? (op : ReadyOp) (count : Nat) (place : Place) : Option DriverCommand :=
  if op.reaches count place then op.command? else none

theorem placesAt_perform (op : ReadyOp) (state : MachineState D) (indices : List Nat) :
    (op.perform state).state.registry.placesAt indices = state.registry.placesAt indices := by
  rw [perform_registry]
  exact state.registry.placesAt_reach ..

theorem isSome_motor?_perform (op : ReadyOp) (state : MachineState D) (place : Place) :
    ((op.perform state).state.registry.motor? place).isSome =
      (state.registry.motor? place).isSome := by
  rw [perform_registry]
  exact state.registry.isSome_motor?_reach ..

/-- What an operation makes of the driver at a place. -/
theorem motor?_perform_eq (op : ReadyOp) (state : MachineState D) (place : Place) :
    (op.perform state).state.registry.motor? place =
      (state.registry.motor? place).map (Motor.mapDriver
        (obeying (op.commandAt? state.registry.axes.length place).toList)) := by
  rw [perform_registry]
  change (state.registry.reach _ _).motor? place = _
  rw [Registry.motor?_reach, commandAt?]
  cases op.reaches state.registry.axes.length place with
  | false => rfl
  | true => cases op.command? <;> rfl

end ReadyOp

namespace Session

theorem onward_concat (state : MachineState D) (ops : List ReadyOp) (op : ReadyOp) :
    onward state (ops ++ [op]) = (onward state ops).next op := by
  simp [onward]

theorem deeds_next (session : Session D) (op : ReadyOp) :
    (session.next op).deeds = session.deeds ++ [op.deedIn session.state] := rfl

theorem map_op_onward (state : MachineState D) (ops : List ReadyOp) :
    (onward state ops).deeds.map ReadyDeed.op = ops := by
  induction ops using List.reverseRecOn with
  | nil => rfl
  | append_singleton ops op ih =>
    rw [onward_concat, deeds_next, List.map_append, ih]
    rfl

/-- A deed of a session is what its operation did in a state that the session reached. -/
theorem exists_deedIn_of_mem {state : MachineState D} {ops : List ReadyOp} {deed : ReadyDeed}
    (h : deed ∈ (onward state ops).deeds) :
    ∃ earlier, deed = deed.op.deedIn (onward state earlier).state := by
  induction ops using List.reverseRecOn with
  | nil => cases h
  | append_singleton ops op ih =>
    rw [onward_concat, deeds_next, List.mem_append, List.mem_singleton] at h
    rcases h with h | rfl
    · exact ih h
    · exact ⟨ops, rfl⟩

theorem placesAt_onward (state : MachineState D) (ops : List ReadyOp) (indices : List Nat) :
    (onward state ops).state.registry.placesAt indices = state.registry.placesAt indices :=
  onward_induction
    (P := fun session ↦ session.state.registry.placesAt indices = state.registry.placesAt indices)
    rfl (fun session op h ↦ (op.placesAt_perform session.state indices).trans h) ops

theorem isSome_motor?_onward (state : MachineState D) (ops : List ReadyOp) (place : Place) :
    ((onward state ops).state.registry.motor? place).isSome =
      (state.registry.motor? place).isSome :=
  onward_induction
    (P := fun session ↦ (session.state.registry.motor? place).isSome =
      (state.registry.motor? place).isSome)
    rfl (fun session op h ↦ (op.isSome_motor?_perform session.state place).trans h) ops

theorem length_axes_onward (state : MachineState D) (ops : List ReadyOp) :
    (onward state ops).state.registry.axes.length = state.registry.axes.length :=
  Registry.length_axes_of_frame (frame_onward state ops)

theorem places_onward (state : MachineState D) (ops : List ReadyOp) :
    (onward state ops).state.registry.places = state.registry.places := by
  rw [← Registry.placesAt_range, ← Registry.placesAt_range, length_axes_onward, placesAt_onward]

theorem mounted_onward (state : MachineState D) (ops : List ReadyOp) (indices : List Nat) :
    (onward state ops).state.registry.mounted indices = state.registry.mounted indices := by
  rw [Registry.mounted, Registry.mounted]
  exact List.filter_congr fun place _ ↦ isSome_motor?_onward state ops place

theorem wired_onward (state : MachineState D) (ops : List ReadyOp) :
    (onward state ops).state.registry.wired = state.registry.wired :=
  onward_induction (P := fun session ↦ session.state.registry.wired = state.registry.wired) rfl
    (fun session op h ↦ (op.wired_perform session.state).trans h) ops

/-- Each driver is as the commands of the operations that reach its place left it. -/
theorem motor?_onward (state : MachineState D) (ops : List ReadyOp) (place : Place) :
    (onward state ops).state.registry.motor? place =
      (state.registry.motor? place).map (Motor.mapDriver
        (obeying (ops.filterMap (ReadyOp.commandAt? · state.registry.axes.length place)))) := by
  induction ops using List.reverseRecOn with
  | nil => exact Option.map_id'.symm
  | append_singleton ops op ih =>
    rw [onward_concat]
    change (op.perform (onward state ops).state).state.registry.motor? place = _
    have hlast : [op].filterMap (ReadyOp.commandAt? · state.registry.axes.length place) =
        (op.commandAt? state.registry.axes.length place).toList := by
      cases h : op.commandAt? state.registry.axes.length place <;> simp [h]
    rw [op.motor?_perform_eq, ih, length_axes_onward, Option.map_map, List.filterMap_append, hlast]
    refine congrArg (Option.map · _) (funext fun motor ↦ ?_)
    simp [Motor.mapDriver, obeying_append]

end Session

end MotionControl
