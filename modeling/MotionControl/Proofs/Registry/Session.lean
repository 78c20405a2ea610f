import MotionControl.Proofs.Registry.HomingProtocol
import MotionControl.Proofs.Registry.Switching
import MotionControl.Proofs.Suppression

/-!
# Sessions of a registry that is up

A session is what comes of a list of operations on a registry that is up, on the mark of disabled
motors and on the suppressed steps: the state they are in and what each operation answered and did.

What happens to the drivers is told by the events. Each driver is as the commands to its place left
it (`Session.motor?_eq_obeying`), since every operation sends one command to each place that it
reaches.
-/

set_option autoImplicit false
set_option relaxedAutoImplicit false

namespace MotionControl

/-! ### Commands to drivers -/

/-- The command to the driver at a place. -/
def MachineEvent.commandTo? (place : Place) : MachineEvent → Option DriverCommand
  | driver other command => if other = place then some command else none
  | _ => none

/-- The commands to the driver at a place, in order. -/
def commandsTo (place : Place) (events : List MachineEvent) : List DriverCommand :=
  events.filterMap (MachineEvent.commandTo? place)

theorem commandsTo_append (place : Place) (first second : List MachineEvent) :
    commandsTo place (first ++ second) = commandsTo place first ++ commandsTo place second :=
  List.filterMap_append

/-- One command to each of some places. -/
theorem commandsTo_map {places : List Place} (nodup : places.Nodup) (place : Place)
    (command : DriverCommand) :
    commandsTo place (places.map (MachineEvent.driver · command)) =
      if place ∈ places then [command] else [] := by
  induction places with
  | nil => rfl
  | cons first places ih =>
    obtain ⟨hnotMem, hnodup⟩ := List.nodup_cons.mp nodup
    have hcons : commandsTo place ((first :: places).map (MachineEvent.driver · command)) =
        (if first = place then [command] else []) ++
          commandsTo place (places.map (MachineEvent.driver · command)) := by
      rw [commandsTo, List.map_cons, List.filterMap_cons, MachineEvent.commandTo?]
      split <;> simp_all [commandsTo]
    rw [hcons, ih hnodup]
    by_cases heq : first = place
    · subst heq
      simp [hnotMem]
    · simp [heq, Ne.symm heq]

/-- Writes to a shared output command no driver. -/
theorem commandsTo_drive (place : Place) (output : SharedOutput) (high : Bool)
    (line : Option SharedLine) : commandsTo place (output.drive high line).events = [] := by
  rcases line with _ | _ | _ <;> rfl

/-- What commands, one after the other, make of a driver. -/
def obeying {D : Type} [MotorDriver D] (commands : List DriverCommand) (driver : D) : D :=
  commands.foldl (fun driver command ↦ command.apply driver) driver

theorem obeying_append {D : Type} [MotorDriver D] (first second : List DriverCommand) (driver : D) :
    obeying (first ++ second) driver = obeying second (obeying first driver) :=
  List.foldl_append ..

/-! ### Writes to the disable line -/

/-- The level of a write to the disable line and whether the write failed. -/
def MachineEvent.disableWrite? : MachineEvent → Option (Bool × Bool)
  | write .disable high failed => some (high, failed)
  | _ => none

/-- The writes to the disable line, in order. -/
def disableWrites (events : List MachineEvent) : List (Bool × Bool) :=
  events.filterMap MachineEvent.disableWrite?

theorem disableWrites_append (first second : List MachineEvent) :
    disableWrites (first ++ second) = disableWrites first ++ disableWrites second :=
  List.filterMap_append

/-- Commands to drivers write no line. -/
theorem disableWrites_map (places : List Place) (command : DriverCommand) :
    disableWrites (places.map (MachineEvent.driver · command)) = [] := by
  rw [disableWrites, List.filterMap_map]
  exact List.filterMap_eq_nil_iff.mpr fun _ _ ↦ rfl

def SharedLine.isWired : SharedLine → Bool
  | wired _ => true
  | unconnected => false

/-- Whether there is a disable line that is wired. -/
def Registry.wired {stage : Stage} {D : Type} (registry : Registry stage D) : Bool :=
  registry.disableLine.any SharedLine.isWired

/-- A line is written once if it is wired, and the answer says whether that succeeded. -/
theorem disableWrites_drive (high : Bool) (line : Option SharedLine) :
    disableWrites (SharedOutput.disable.drive high line).events =
      if line.any SharedLine.isWired then
        [(high, !(SharedOutput.disable.drive high line).answer)]
      else [] := by
  rcases line with _ | failures | _
  · rfl
  · cases failures with
    | nil => rfl
    | cons failed failures => cases failed <;> rfl
  · rfl

theorem isWired_drive (output : SharedOutput) (high : Bool) (line : Option SharedLine) :
    (output.drive high line).state.any SharedLine.isWired = line.any SharedLine.isWired := by
  rcases line with _ | _ | _ <;> rfl

/-! ### What operations leave alone -/

namespace Registry

variable {stage : Stage} {D : Type}

/-- The registry without its motors and its disable line. -/
def frame (registry : Registry stage D) : Registry stage D :=
  { registry.bare with disableLine := none }

theorem frame_reach (registry : Registry stage D) (reached : Place → Bool) (change : D → D) :
    (registry.reach reached change).frame = registry.frame := by
  rw [frame, bare_reach]
  rfl

theorem length_axes_of_frame {registry other : Registry stage D}
    (h : registry.frame = other.frame) : registry.axes.length = other.axes.length := by
  simpa [frame, bare] using congrArg (fun registry ↦ registry.axes.length) h

theorem disableDelay_of_frame {registry other : Registry stage D}
    (h : registry.frame = other.frame) : registry.disableDelay = other.disableDelay := by
  change registry.frame.disableDelay = other.frame.disableDelay
  rw [h]

theorem InPlace.of_frame {registry other : Registry stage D} (inPlace : registry.InPlace)
    (h : registry.frame = other.frame) : other.InPlace := by
  intro index axis hindex
  have haxes : registry.axes.map Axis.bare = other.axes.map Axis.bare := congrArg axes h
  have hbare : (registry.axis? index).map Axis.bare = some axis.bare := by
    rw [axis?, ← List.getElem?_map, haxes, List.getElem?_map, ← axis?, hindex]
    rfl
  obtain ⟨before, hbefore, hsame⟩ := Option.map_eq_some_iff.mp hbare
  exact (congrArg Axis.index hsame).symm.trans (inPlace index before hbefore)

end Registry

/-! ### Operations -/

/-- An operation on a registry that is up or on the suppressed steps. -/
inductive ReadyOp
  | switchAxis (index : Nat) (disable : Bool)
  | switchAll (disable : Bool)
  | homing (mask : AxisMask) (on : Bool)
  | suppress (op : SuppressionOp)
  deriving DecidableEq, Repr

/-- What an operation answers. -/
inductive ReadyAnswer
  | done
  | switched (result : Except AxisFault Settle)
  /-- The motors that take part in homing. -/
  | active (motors : MotorMask)

/-- A registry that is up with the mark and the suppressed steps that it shares. -/
structure MachineState (D : Type) where
  registry : Registry .ready D
  mark : DisabledMark := {}
  suppression : Suppression := .empty

variable {D : Type} [MotorDriver D]

namespace ReadyOp

def perform (op : ReadyOp) (state : MachineState D) :
    Outcome (MachineState D) MachineEvent ReadyAnswer :=
  match op with
  | switchAxis index disable =>
    let outcome := state.registry.setDisableAxis index disable state.mark
    ⟨.done, { state with registry := outcome.state.1, mark := outcome.state.2 }, outcome.events⟩
  | switchAll disable =>
    let outcome := state.registry.setDisable disable state.mark
    ⟨.switched outcome.answer, { state with registry := outcome.state.1, mark := outcome.state.2 },
      outcome.events⟩
  | homing mask on =>
    let outcome := state.registry.setHoming mask on state.suppression
    ⟨.active outcome.answer,
      { state with registry := outcome.state.1, suppression := outcome.state.2 }, outcome.events⟩
  | suppress op => .still .done { state with suppression := op.perform state.suppression }

/-- The command that an operation sends to the drivers that it reaches. -/
def command? : ReadyOp → Option DriverCommand
  | switchAxis _ disable | switchAll disable => some (.setDisable disable)
  | homing _ on => some (.setHoming on false)
  | suppress _ => none

/-- Whether an operation on a registry with a number of axes reaches the driver at a place, if a
motor is mounted there. -/
def reaches (op : ReadyOp) (count : Nat) (place : Place) : Bool :=
  match op with
  | switchAxis index _ => place.axis == index
  | switchAll _ => true
  | homing mask _ => decide (place.axis < count) && mask.contains place.axis
  | suppress _ => false

/-- An operation changes the drivers that it reaches as its command says, and apart from them only
the disable line. -/
theorem perform_registry (op : ReadyOp) (state : MachineState D) :
    (op.perform state).state.registry =
      { state.registry.reach (op.reaches state.registry.axes.length)
          (op.command?.elim id DriverCommand.apply) with
        disableLine := (op.perform state).state.registry.disableLine } := by
  cases op with
  | switchAxis index disable =>
    rw [perform, Registry.setDisableAxis_eq]
    rfl
  | switchAll disable =>
    rw [perform, Registry.setDisable_eq]
    rfl
  | homing mask on =>
    rw [perform, Registry.setHoming_eq]
    rfl
  | suppress op =>
    have hsame : state.registry.reach ((suppress op).reaches state.registry.axes.length)
        ((suppress op).command?.elim id DriverCommand.apply) = state.registry :=
      Registry.reach_of_forall_eq_false fun _ _ _ ↦ rfl
    rw [hsame]
    rfl

/-- Each driver that an operation reaches is sent the command of the operation once. -/
theorem commandsTo_perform (op : ReadyOp) {state : MachineState D}
    (inPlace : state.registry.InPlace) {place : Place} {motor : Motor D}
    (mounted : state.registry.motor? place = some motor) :
    commandsTo place (op.perform state).events =
      if op.reaches state.registry.axes.length place then op.command?.toList else [] := by
  have hsome : (state.registry.motor? place).isSome = true := by rw [mounted]; rfl
  cases op with
  | switchAxis index disable =>
    simp only [perform, Registry.setDisableAxis_eq, Registry.switchEvents, inPlace.placesAt]
    rw [commandsTo_map (state.registry.nodup_mounted (List.pairwise_singleton ..))]
    simp [Registry.mem_mounted, hsome, reaches, command?]
  | switchAll disable =>
    have hindex := Registry.axis_lt_of_motor? mounted
    simp only [perform, Registry.setDisable_eq, Registry.switchEvents, ← Registry.placesAt_range,
      inPlace.placesAt, commandsTo_append, commandsTo_drive]
    rw [commandsTo_map (state.registry.nodup_mounted List.pairwise_lt_range)]
    simp [Registry.mem_mounted, hsome, hindex, reaches, command?]
  | homing mask on =>
    have hnodup := state.registry.nodup_mounted (state.registry.pairwise_homingAxes mask)
    simp only [perform, Registry.setHoming_eq, Registry.homingEvents, commandsTo_append]
    rw [commandsTo_map hnodup]
    simp [Registry.mem_mounted, Registry.mem_homingAxes, hsome, reaches, command?, commandsTo,
      MachineEvent.commandTo?]
  | suppress op => rfl

/-- An operation leaves each driver as the commands to its place do. -/
theorem motor?_perform (op : ReadyOp) {state : MachineState D} (inPlace : state.registry.InPlace)
    (place : Place) :
    (op.perform state).state.registry.motor? place =
      (state.registry.motor? place).map
        (Motor.mapDriver (obeying (commandsTo place (op.perform state).events))) := by
  rw [perform_registry]
  change (state.registry.reach _ _).motor? place = _
  rw [Registry.motor?_reach]
  cases hmotor : state.registry.motor? place with
  | none => rfl
  | some motor =>
    rw [commandsTo_perform op inPlace hmotor]
    cases op.reaches state.registry.axes.length place with
    | false => rfl
    | true => cases op.command? <;> rfl

/-- An operation changes nothing but drivers and the disable line. -/
theorem frame_perform (op : ReadyOp) (state : MachineState D) :
    (op.perform state).state.registry.frame = state.registry.frame := by
  rw [perform_registry]
  exact state.registry.frame_reach ..

/-- Only the switching of all motors writes the disable line. -/
theorem disableWrites_perform (op : ReadyOp) (state : MachineState D) :
    disableWrites (op.perform state).events =
      match op with
      | switchAll disable => disableWrites
          (SharedOutput.disable.drive disable state.registry.disableLine).events
      | _ => [] := by
  cases op with
  | switchAxis index disable =>
    simp only [perform, Registry.setDisableAxis_eq]
    exact disableWrites_map ..
  | switchAll disable =>
    simp only [perform, Registry.setDisable_eq, disableWrites_append]
    rw [Registry.switchEvents, disableWrites_map, List.nil_append]
  | homing mask on =>
    simp only [perform, Registry.setHoming_eq, disableWrites_append, Registry.homingEvents,
      disableWrites_map]
    rfl
  | suppress op => rfl

theorem wired_perform (op : ReadyOp) (state : MachineState D) :
    (op.perform state).state.registry.wired = state.registry.wired := by
  cases op with
  | switchAxis index disable =>
    simp only [perform, Registry.setDisableAxis_eq]
    rfl
  | switchAll disable =>
    simp only [perform, Registry.setDisable_eq]
    exact isWired_drive ..
  | homing mask on =>
    simp only [perform, Registry.setHoming_eq]
    rfl
  | suppress op => rfl

end ReadyOp

/-! ### Sessions -/

/-- An operation with its answer and what it did. -/
structure ReadyDeed where
  op : ReadyOp
  answer : ReadyAnswer
  events : List MachineEvent

/-- A state with the operations that led to it. -/
structure Session (D : Type) where
  state : MachineState D
  deeds : List ReadyDeed := []

namespace Session

/-- The session after an operation. -/
def next (session : Session D) (op : ReadyOp) : Session D :=
  let outcome := op.perform session.state
  { state := outcome.state
    deeds := session.deeds ++ [⟨op, outcome.answer, outcome.events⟩] }

/-- The session from a state along a list of operations. -/
def onward (state : MachineState D) (ops : List ReadyOp) : Session D := ops.foldl next { state }

/-- The session of a registry along a list of operations, with the mark clear and no steps
suppressed at first. -/
def along (registry : Registry .ready D) (ops : List ReadyOp) : Session D :=
  ops.foldl next { state := { registry } }

/-- What happened, in order. -/
def events (session : Session D) : List MachineEvent := session.deeds.flatMap ReadyDeed.events

theorem events_next (session : Session D) (op : ReadyOp) :
    (session.next op).events = session.events ++ (op.perform session.state).events := by
  simp [events, next]

/-- What holds at first and is kept by every operation holds along every list of operations. -/
theorem onward_induction {P : Session D → Prop} {state : MachineState D} (start : P { state })
    (next : ∀ session op, P session → P (session.next op)) (ops : List ReadyOp) :
    P (onward state ops) :=
  List.foldlRecOn ops Session.next start fun session hsession op _ ↦ next session op hsession

theorem along_induction {P : Session D → Prop} {registry : Registry .ready D}
    (start : P { state := { registry } }) (next : ∀ session op, P session → P (session.next op))
    (ops : List ReadyOp) : P (along registry ops) :=
  onward_induction start next ops

/-- A session changes nothing but drivers, the disable line, the mark and the suppressed steps. -/
theorem frame_onward (state : MachineState D) (ops : List ReadyOp) :
    (onward state ops).state.registry.frame = state.registry.frame :=
  onward_induction (P := fun session ↦ session.state.registry.frame = state.registry.frame) rfl
    (fun session op h ↦ (op.frame_perform session.state).trans h) ops

/-- Each driver is as the commands to its place left it. -/
theorem motor?_eq_obeying (state : MachineState D) (inPlace : state.registry.InPlace)
    (ops : List ReadyOp) (place : Place) :
    (onward state ops).state.registry.motor? place =
      (state.registry.motor? place).map
        (Motor.mapDriver (obeying (commandsTo place (onward state ops).events))) := by
  refine (onward_induction (P := fun session ↦ session.state.registry.InPlace ∧
      session.state.registry.motor? place = (state.registry.motor? place).map
        (Motor.mapDriver (obeying (commandsTo place session.events))))
    ⟨inPlace, Option.map_id'.symm⟩ (fun session op ⟨hinPlace, hmotor⟩ ↦ ?_) ops).2
  refine ⟨hinPlace.of_frame (op.frame_perform session.state).symm, ?_⟩
  rw [events_next, commandsTo_append]
  change (op.perform session.state).state.registry.motor? place = _
  rw [op.motor?_perform hinPlace, hmotor, Option.map_map]
  refine congrArg (Option.map · _) (funext fun motor ↦ ?_)
  simp [Motor.mapDriver, obeying_append]

theorem motor?_along {registry : Registry .ready D} (inPlace : registry.InPlace)
    (ops : List ReadyOp) (place : Place) :
    (along registry ops).state.registry.motor? place =
      (registry.motor? place).map
        (Motor.mapDriver (obeying (commandsTo place (along registry ops).events))) :=
  motor?_eq_obeying { registry } inPlace ops place

end Session

end MotionControl
