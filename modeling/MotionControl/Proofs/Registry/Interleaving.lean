import MotionControl.Proofs.History
import MotionControl.Proofs.Registry.Continuation

/-!
# Switching in the midst of homing

Operations that switch motors may fall anywhere among those of homing, since the two kinds share a
registry but read nothing that the other kind writes: switching reads the mark and the disable line,
homing the suppressed steps and the answers of the drivers. So a session splits into one session of
each kind (`Session.switching_onward`, `Session.homing_onward`), and all interleavings of the same
operations come to the same (`Session.alike_interleaving`), provided that no driver lets its answers
to homing depend on whether it is disabled.
-/

set_option autoImplicit false
set_option relaxedAutoImplicit false

namespace MotionControl

/-! ### The two kinds of operations -/

/-- Whether the operation switches motors, rather than being one of homing. -/
def ReadyOp.switches : ReadyOp → Bool
  | switchAxis .. | switchAll .. => true
  | homing .. | suppress .. => false

/-- Whether the command disables or enables a motor. -/
def DriverCommand.isSwitch : DriverCommand → Bool
  | setDisable _ => true
  | _ => false

variable {D : Type} [MotorDriver D]

/-- Whether the answers of a driver to homing commands stay the same if the commands that disable or
enable it are left out. -/
def HomesSteadily (driver : D) : Prop :=
  ∀ (commands : List DriverCommand) (on : Bool),
    (MotorDriver.setHoming on (obeying commands driver)).1 =
      (MotorDriver.setHoming on (obeying (commands.filter (!·.isSwitch)) driver)).1

namespace ReadyOp

theorem isSwitch_of_command? {op : ReadyOp} {command : DriverCommand}
    (h : op.command? = some command) : command.isSwitch = op.switches := by
  cases op <;> cases h <;> rfl

/-- Without the commands that switch motors, those of homing are left. -/
theorem filter_commandAt? (op : ReadyOp) (count : Nat) (place : Place) :
    (op.commandAt? count place).filter (!·.isSwitch) =
      if !op.switches then op.commandAt? count place else none := by
  unfold commandAt?
  split
  · cases hcommand : op.command? with
    | none => simp
    | some command =>
      rw [← isSwitch_of_command? hcommand]
      cases hswitch : command.isSwitch <;> simp [Option.filter, hswitch]
  · simp

/-- Each kind of operations sends its own kind of commands. -/
theorem isSwitch_of_mem_events {op : ReadyOp} {state : MachineState D} {place : Place}
    {command : DriverCommand} (h : .driver place command ∈ (op.perform state).events) :
    command.isSwitch = op.switches := by
  have hdrive {output : SharedOutput} {high : Bool} {line : Option SharedLine} :
      .driver place command ∉ (output.drive high line).events := by
    rcases line with _ | _ | _ <;> simp [SharedOutput.drive, Outcome.still]
  cases op with
  | switchAxis index disable =>
    simp only [perform, Registry.setDisableAxis_eq, Registry.switchEvents, List.mem_map] at h
    obtain ⟨_, -, heq⟩ := h
    cases heq
    rfl
  | switchAll disable =>
    simp only [perform, Registry.setDisable_eq, Registry.switchEvents, List.mem_append,
      List.mem_map, hdrive, or_false] at h
    obtain ⟨_, -, heq⟩ := h
    cases heq
    rfl
  | homing mask on =>
    simp only [perform, Registry.setHoming_eq, Registry.homingEvents, List.mem_append,
      List.mem_map, List.mem_singleton, reduceCtorEq, or_false] at h
    obtain ⟨_, -, heq⟩ := h
    cases heq
    rfl
  | suppress op => cases h

/-- Operations of homing leave the disable line and the mark alone. -/
theorem perform_of_not_switches {op : ReadyOp} (h : op.switches = false)
    (state : MachineState D) :
    (op.perform state).state.registry.disableLine = state.registry.disableLine ∧
      (op.perform state).state.mark = state.mark := by
  cases op with
  | switchAxis | switchAll => cases h
  | homing mask on =>
    rw [perform, Registry.setHoming_eq]
    exact ⟨rfl, rfl⟩
  | suppress op => exact ⟨rfl, rfl⟩

/-- Switching motors leaves the suppressed steps alone. -/
theorem suppression_perform {op : ReadyOp} (h : op.switches = true) (state : MachineState D) :
    (op.perform state).state.suppression = state.suppression := by
  cases op with
  | switchAxis | switchAll => rfl
  | homing | suppress => cases h

end ReadyOp

namespace Session

/-! ### One kind alone -/

/-- Operations of a kind do the same with and without those of the other kind, if they only look at
a part of the state that the others leave alone. -/
theorem filter_onward {α : Type} (keep : ReadyOp → Bool) (view : MachineState D → α)
    (state : MachineState D)
    (kept : ∀ ops op, keep op = true →
      view (onward state ops).state = view (onward state (ops.filter keep)).state →
      op.deedIn (onward state ops).state = op.deedIn (onward state (ops.filter keep)).state ∧
        view (op.perform (onward state ops).state).state =
          view (op.perform (onward state (ops.filter keep)).state).state)
    (dropped : ∀ state op, keep op = false → view (op.perform state).state = view state)
    (ops : List ReadyOp) :
    view (onward state ops).state = view (onward state (ops.filter keep)).state ∧
      (onward state ops).deeds.filter (keep ·.op) = (onward state (ops.filter keep)).deeds := by
  -- The last operation is made in both sessions if it is of the kind, and in one of them if not.
  induction ops using List.reverseRecOn with
  | nil => exact ⟨rfl, rfl⟩
  | append_singleton ops op ih =>
    obtain ⟨hview, hdeeds⟩ := ih
    rw [onward_concat, List.filter_append, deeds_next, List.filter_append, hdeeds]
    cases hkeep : keep op with
    | true =>
      obtain ⟨hdeed, hafter⟩ := kept ops op hkeep hview
      rw [List.filter_cons_of_pos hkeep, List.filter_nil, onward_concat, deeds_next, ← hdeed]
      exact ⟨hafter, congrArg _ (List.filter_cons_of_pos hkeep)⟩
    | false =>
      have hgone : [op.deedIn (onward state ops).state].filter (keep ·.op) = [] :=
        List.filter_cons_of_neg (by simp [ReadyOp.deedIn, hkeep])
      rw [List.filter_cons_of_neg (by simp [hkeep]), List.filter_nil, List.append_nil, hgone,
        List.append_nil]
      exact ⟨(dropped _ op hkeep).trans hview, rfl⟩

theorem disableDelay_onward (state : MachineState D) (ops : List ReadyOp) :
    (onward state ops).state.registry.disableDelay = state.registry.disableDelay :=
  Registry.disableDelay_of_frame (frame_onward state ops)

/-- Switching motors goes as it would without homing. -/
theorem switching_onward (state : MachineState D) (ops : List ReadyOp) :
    ((onward state ops).state.registry.disableLine =
        (onward state (ops.filter ReadyOp.switches)).state.registry.disableLine ∧
      (onward state ops).state.mark = (onward state (ops.filter ReadyOp.switches)).state.mark) ∧
      (onward state ops).deeds.filter (·.op.switches) =
        (onward state (ops.filter ReadyOp.switches)).deeds := by
  have h := filter_onward ReadyOp.switches
    (fun state ↦ (state.registry.disableLine, state.mark)) state (fun ops op hop hview ↦ ?_)
    (fun state op hop ↦ Prod.ext_iff.mpr (op.perform_of_not_switches hop state)) ops
  · exact ⟨Prod.ext_iff.mp h.1, h.2⟩
  · obtain ⟨hline, hmark⟩ := Prod.ext_iff.mp hview
    dsimp only at hline hmark
    cases op with
    | switchAxis index disable =>
      simp only [ReadyOp.deedIn, ReadyOp.perform, Registry.setDisableAxis_eq, placesAt_onward,
        length_axes_onward, hmark, true_and]
      exact Prod.ext hline rfl
    | switchAll disable =>
      simp only [ReadyOp.deedIn, ReadyOp.perform, Registry.setDisable_eq, places_onward,
        length_axes_onward, disableDelay_onward, hline, hmark, true_and]
    | homing | suppress => cases hop

/-- The answer of the driver at a place to a homing command, if it does not depend on switching. -/
theorem takesPart_onward {state : MachineState D}
    (steady : ∀ place motor, state.registry.motor? place = some motor →
      HomesSteadily motor.driver) (ops : List ReadyOp) (on : Bool) (place : Place) :
    (onward state ops).state.registry.takesPart on place =
      (onward state (ops.filter (!·.switches))).state.registry.takesPart on place := by
  -- The commands that the driver obeyed without those that switch it.
  have hcommands : (ops.filterMap (ReadyOp.commandAt? · state.registry.axes.length place)).filter
        (!·.isSwitch) =
      (ops.filter (!·.switches)).filterMap
        (ReadyOp.commandAt? · state.registry.axes.length place) := by
    rw [List.filter_filterMap, List.filterMap_filter]
    refine congrArg (List.filterMap · ops) (funext fun op ↦ ?_)
    rw [op.filter_commandAt?]
  rw [Registry.takesPart, Registry.takesPart, motor?_onward, motor?_onward, ← hcommands]
  cases hmotor : state.registry.motor? place with
  | none => rfl
  | some motor => exact steady place motor hmotor _ on

/-- Homing goes as it would without the switching of motors. -/
theorem homing_onward {state : MachineState D}
    (steady : ∀ place motor, state.registry.motor? place = some motor →
      HomesSteadily motor.driver) (ops : List ReadyOp) :
    (onward state ops).state.suppression =
        (onward state (ops.filter (!·.switches))).state.suppression ∧
      (onward state ops).deeds.filter (!·.op.switches) =
        (onward state (ops.filter (!·.switches))).deeds := by
  refine filter_onward (!·.switches) MachineState.suppression state
    (fun ops op hop hsuppression ↦ ?_)
    (fun state op hop ↦ op.suppression_perform (by simpa using hop) state) ops
  cases op with
  | switchAxis | switchAll => cases hop
  | homing mask on =>
    simp only [ReadyOp.deedIn, ReadyOp.perform, Registry.setHoming_eq, Registry.placesOf,
      Registry.homingAxes, length_axes_onward, mounted_onward,
      funext (takesPart_onward steady ops on), hsuppression, true_and]
  | suppress op =>
    simp only [ReadyOp.deedIn, ReadyOp.perform, Outcome.still, hsuppression, true_and]

/-! ### All interleavings alike -/

omit [MotorDriver D] in
/-- What is picked from the events of a session stands in the deeds of one kind, if nothing is
picked from the others. -/
theorem filterMap_events {β : Type} (session : Session D) (keep : ReadyDeed → Bool)
    (pick : MachineEvent → Option β)
    (silent : ∀ deed ∈ session.deeds, keep deed = false → deed.events.filterMap pick = []) :
    session.events.filterMap pick =
      ((session.deeds.filter keep).flatMap ReadyDeed.events).filterMap pick := by
  rw [events]
  generalize session.deeds = deeds at silent
  induction deeds with
  | nil => rfl
  | cons deed deeds ih =>
    obtain ⟨hfirst, hrest⟩ := List.forall_mem_cons.mp silent
    rw [List.flatMap_cons, List.filterMap_append, ih hrest]
    cases hkeep : keep deed with
    | true => rw [List.filter_cons_of_pos hkeep, List.flatMap_cons, List.filterMap_append]
    | false => rw [List.filter_cons_of_neg (by simp [hkeep]), hfirst hkeep, List.nil_append]

/-- Two sessions with the same operations of either kind that came to the same. -/
structure Alike (session other : Session D) : Prop where
  /-- The operations that switch motors had the same answers and effects. -/
  switching : session.deeds.filter (·.op.switches) = other.deeds.filter (·.op.switches)
  /-- So had those of homing. -/
  homing : session.deeds.filter (!·.op.switches) = other.deeds.filter (!·.op.switches)
  switchCommands : ∀ place, (commandsTo place session.events).filter DriverCommand.isSwitch =
    (commandsTo place other.events).filter DriverCommand.isSwitch
  homingCommands : ∀ place, (commandsTo place session.events).filter (!·.isSwitch) =
    (commandsTo place other.events).filter (!·.isSwitch)
  mark : session.state.mark = other.state.mark
  suppression : session.state.suppression = other.state.suppression
  disableWrites : disableWrites session.events = disableWrites other.events

/-- If an operation sends only commands of its own kind, the commands of a kind to a driver stand in
the deeds of that kind. -/
theorem filter_commandsTo (state : MachineState D) (ops : List ReadyOp) (place : Place)
    {kind : DriverCommand → Bool} {keep : ReadyOp → Bool}
    (own : ∀ (op : ReadyOp) (before : MachineState D) (place : Place) (command : DriverCommand),
      .driver place command ∈ (op.perform before).events → kind command = keep op) :
    (commandsTo place (onward state ops).events).filter kind =
      (commandsTo place (((onward state ops).deeds.filter (keep ·.op)).flatMap
        ReadyDeed.events)).filter kind := by
  rw [commandsTo, commandsTo, List.filter_filterMap, List.filter_filterMap]
  refine filterMap_events _ (keep ·.op) _ fun deed hdeed hkeep ↦ ?_
  obtain ⟨earlier, hdeed⟩ := exists_deedIn_of_mem hdeed
  rw [hdeed]
  refine List.filterMap_eq_nil_iff.mpr fun event hevent ↦ ?_
  cases event with
  | driver other command =>
    have hcommand : kind command = false := (own _ _ other command hevent).trans hkeep
    rw [MachineEvent.commandTo?]
    split <;> simp [Option.filter, hcommand]
  | write | request | delay | log => rfl

/-- All writes to the disable line stand in the deeds that switch motors. -/
theorem disableWrites_onward (state : MachineState D) (ops : List ReadyOp) :
    disableWrites (onward state ops).events =
      disableWrites (((onward state ops).deeds.filter (·.op.switches)).flatMap
        ReadyDeed.events) := by
  refine filterMap_events _ (·.op.switches) _ fun deed hdeed hkind ↦ ?_
  obtain ⟨earlier, hdeed⟩ := exists_deedIn_of_mem hdeed
  rw [hdeed]
  change disableWrites (deed.op.perform (onward state earlier).state).events = []
  rw [ReadyOp.disableWrites_perform]
  split
  next hop =>
    rw [hop] at hkind
    cases hkind
  next => rfl

/-- Sessions with the same operations of either kind, in the same order, are alike. -/
theorem alike_of_filter {state : MachineState D}
    (steady : ∀ place motor, state.registry.motor? place = some motor →
      HomesSteadily motor.driver) {ops others : List ReadyOp}
    (switching : ops.filter ReadyOp.switches = others.filter ReadyOp.switches)
    (homing : ops.filter (!·.switches) = others.filter (!·.switches)) :
    (onward state ops).Alike (onward state others) := by
  obtain ⟨⟨-, hmark⟩, hswitching⟩ := switching_onward state ops
  obtain ⟨⟨-, hmark'⟩, hswitching'⟩ := switching_onward state others
  obtain ⟨hsuppression, hhoming⟩ := homing_onward steady ops
  obtain ⟨hsuppression', hhoming'⟩ := homing_onward steady others
  rw [switching] at hmark hswitching
  rw [homing] at hsuppression hhoming
  have switched := hswitching.trans hswitching'.symm
  have homed := hhoming.trans hhoming'.symm
  constructor
  case switching => exact switched
  case homing => exact homed
  case switchCommands =>
    intro place
    have own (op : ReadyOp) (before : MachineState D) (place : Place) (command : DriverCommand)
        (h : .driver place command ∈ (op.perform before).events) :
        command.isSwitch = op.switches := ReadyOp.isSwitch_of_mem_events h
    rw [filter_commandsTo state ops place own, filter_commandsTo state others place own, switched]
  case homingCommands =>
    intro place
    have own (op : ReadyOp) (before : MachineState D) (place : Place) (command : DriverCommand)
        (h : .driver place command ∈ (op.perform before).events) :
        (!command.isSwitch) = !op.switches := congrArg not (ReadyOp.isSwitch_of_mem_events h)
    rw [filter_commandsTo state ops place own, filter_commandsTo state others place own, homed]
  case mark => exact hmark.trans hmark'.symm
  case suppression => exact hsuppression.trans hsuppression'.symm
  case disableWrites => rw [disableWrites_onward, disableWrites_onward, switched]

/-- However the switching of motors falls among the operations of homing, it comes to the same as if
either were done completely before the other. -/
theorem alike_interleaving {state : MachineState D}
    (steady : ∀ place motor, state.registry.motor? place = some motor →
      HomesSteadily motor.driver) {switches homings ops : List ReadyOp}
    (switching : ∀ op ∈ switches, op.switches = true)
    (homing : ∀ op ∈ homings, op.switches = false)
    (interleaving : Interleaving switches homings ops) :
    (onward state ops).Alike (onward state (switches ++ homings)) ∧
      (onward state ops).Alike (onward state (homings ++ switches)) := by
  have hswitches {ops : List ReadyOp} (h : Interleaving switches homings ops) :
      ops.filter ReadyOp.switches = switches := h.filter_eq_left switching homing
  have hhomings {ops : List ReadyOp} (h : Interleaving switches homings ops) :
      ops.filter (!·.switches) = homings :=
    h.symm.filter_eq_left (fun op hop ↦ by simp [homing op hop])
      (fun op hop ↦ by simp [switching op hop])
  have alike {others : List ReadyOp} (h : Interleaving switches homings others) :
      (onward state ops).Alike (onward state others) :=
    alike_of_filter steady ((hswitches interleaving).trans (hswitches h).symm)
      ((hhomings interleaving).trans (hhomings h).symm)
  exact ⟨alike (.append switches homings), alike (Interleaving.append homings switches).symm⟩

end Session

/-- A motor that takes part in homing every other time, disabled or not. -/
structure AlternatingMotor where
  takesPart : Bool := true
  disabled : Bool := false

namespace AlternatingMotor

instance : MotorDriver AlternatingMotor where
  setDisable disable motor := { motor with disabled := disable }
  setHoming _ motor := (motor.takesPart, { motor with takesPart := !motor.takesPart })

theorem homesSteadily (motor : AlternatingMotor) : HomesSteadily motor := by
  have hkept (commands : List DriverCommand) : ∀ motor other : AlternatingMotor,
      motor.takesPart = other.takesPart →
        (obeying commands motor).takesPart =
          (obeying (commands.filter (!·.isSwitch)) other).takesPart := by
    induction commands with
    | nil => exact fun _ _ h ↦ h
    | cons command commands ih =>
      intro motor other h
      cases command with
      | init | configure => exact ih _ _ h
      | setDisable disable => exact ih _ _ h
      | setHoming on blocked => exact ih _ _ (congrArg not h)
  exact fun commands _ ↦ hkept commands motor motor rfl

/-- The first write to the disable line fails. -/
def machine : MachineState AlternatingMotor :=
  let first : Axis AlternatingMotor := .ofIndex 0
  let second : Axis AlternatingMotor := .ofIndex 1
  let resting : AlternatingMotor := { takesPart := false }
  { registry :=
      { axes :=
          [{ first with motors := #v[some (.ofDriver {}), some (.ofDriver resting)] },
            { second with motors := #v[none, some (.ofDriver {})] }]
        homingRuns := 2
        disableDelay := 10
        disableLine := some (.wired [true])
        resetLine := none
        homingDirections := .empty }
    suppression := Suppression.empty.block ⟨1, 1⟩ }

def switches : List ReadyOp := [.switchAll true, .switchAxis 1 false, .switchAll false]

def homings : List ReadyOp :=
  [.homing (.below 2) true, .suppress (.block ⟨0, 0⟩), .homing (.below 1) false]

def mixed : List ReadyOp :=
  [.homing (.below 2) true, .switchAll true, .suppress (.block ⟨0, 0⟩), .switchAxis 1 false,
    .homing (.below 1) false, .switchAll false]

theorem alike_mixed :
    Interleaving switches homings mixed ∧
      (Session.onward machine mixed).Alike (Session.onward machine (switches ++ homings)) ∧
      (Session.onward machine mixed).Alike (Session.onward machine (homings ++ switches)) := by
  have interleaving : Interleaving switches homings mixed :=
    .right (.left (.right (.left (.right (.left .nil)))))
  exact ⟨interleaving, Session.alike_interleaving (fun _ motor _ ↦ motor.driver.homesSteadily)
    (by decide) (by decide) interleaving⟩

end AlternatingMotor

end MotionControl
