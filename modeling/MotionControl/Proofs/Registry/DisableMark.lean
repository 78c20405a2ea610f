import MotionControl.Proofs.History
import MotionControl.Proofs.Registry.Assembly
import MotionControl.Proofs.Registry.Session

/-!
# The mark of disabled motors

The mark is set exactly if motors were disabled since all motors were last enabled without a fault,
and while it is set the next such enabling owes the whole delay, however many attempts to write the
disable line fail before. While it is clear, no motor was left disabled and the disable line was not
left high (`Session.MarkKept`). This holds of every session of a registry that was built, whatever
its drivers do and whichever writes fail; changes of homing mode and of the suppressed steps in
between make no difference.
-/

set_option autoImplicit false
set_option relaxedAutoImplicit false

namespace MotionControl

variable {D : Type} [MotorDriver D]

/-! ### What a history tells -/

/-- Whether an operation disables motors of a registry with a number of axes. -/
def ReadyOp.disables (count : Nat) : ReadyOp → Bool
  | switchAxis index disable => disable && decide (index < count)
  | switchAll disable => disable
  | _ => false

/-- Whether all motors were enabled without a fault. -/
def ReadyDeed.enablesAll : ReadyDeed → Bool
  | ⟨.switchAll false, .switched (.ok _), _⟩ => true
  | _ => false

/-- Whether motors are disabled or enabled by a command. -/
def DriverCommand.switch? : DriverCommand → Option Bool
  | setDisable disable => some disable
  | _ => none

/-- Whether the driver at a place was last disabled or enabled. -/
def lastSwitch (place : Place) (events : List MachineEvent) : Option Bool :=
  latest? DriverCommand.switch? (commandsTo place events)

theorem lastSwitch_append (place : Place) (first second : List MachineEvent) :
    lastSwitch place (first ++ second) = (lastSwitch place second).or (lastSwitch place first) := by
  rw [lastSwitch, commandsTo_append, latest?_append]
  rfl

/-- The level that was last asked of the disable line, whether or not the write failed. -/
def lastAsked (events : List MachineEvent) : Option Bool :=
  latest? (fun write ↦ some write.1) (disableWrites events)

/-- The level that was last written to the disable line without a fault. -/
def lastWritten (events : List MachineEvent) : Option Bool :=
  latest? (fun write ↦ if write.2 then none else some write.1) (disableWrites events)

theorem lastAsked_append (first second : List MachineEvent) :
    lastAsked (first ++ second) = (lastAsked second).or (lastAsked first) := by
  rw [lastAsked, disableWrites_append, latest?_append]
  rfl

theorem lastWritten_append (first second : List MachineEvent) :
    lastWritten (first ++ second) = (lastWritten second).or (lastWritten first) := by
  rw [lastWritten, disableWrites_append, latest?_append]
  rfl

/-! ### One operation -/

namespace ReadyOp

/-- The entry that an operation leaves in the history. -/
def deed (op : ReadyOp) (state : MachineState D) : ReadyDeed :=
  ⟨op, (op.perform state).answer, (op.perform state).events⟩

/-- The mark after an operation. -/
theorem mark_perform (op : ReadyOp) {state : MachineState D}
    (nonempty : 0 < state.registry.axes.length) :
    (op.perform state).state.mark.isSet =
      (!(op.deed state).enablesAll &&
        (state.mark.isSet || op.disables state.registry.axes.length)) := by
  cases op with
  | switchAxis index disable =>
    simp [perform, Registry.setDisableAxis_eq, deed, ReadyDeed.enablesAll, disables]
  | switchAll disable =>
    simp only [perform, deed, Registry.setDisable_eq, nonempty, decide_true]
    cases (SharedOutput.disable.drive disable state.registry.disableLine).answer <;>
      cases disable <;> simp [ReadyDeed.enablesAll, disables]
  | homing mask on => simp [perform, deed, ReadyDeed.enablesAll, disables]
  | suppress op => simp [perform, Outcome.still, deed, ReadyDeed.enablesAll, disables]

/-- The last switching of a driver by an operation. -/
theorem lastSwitch_perform (op : ReadyOp) {state : MachineState D}
    (inPlace : state.registry.InPlace) {place : Place} {motor : Motor D}
    (mounted : state.registry.motor? place = some motor) :
    lastSwitch place (op.perform state).events =
      if op.reaches state.registry.axes.length place then op.command?.bind DriverCommand.switch?
      else none := by
  rw [lastSwitch, op.commandsTo_perform inPlace mounted]
  cases op.reaches state.registry.axes.length place with
  | false => rfl
  | true => cases op.command? <;> simp [latest?]

theorem lastSwitch_ne_of_not_disables {op : ReadyOp} {state : MachineState D}
    (inPlace : state.registry.InPlace) {place : Place} {motor : Motor D}
    (mounted : state.registry.motor? place = some motor)
    (h : op.disables state.registry.axes.length = false) :
    lastSwitch place (op.perform state).events ≠ some true := by
  rw [op.lastSwitch_perform inPlace mounted]
  split
  next hreaches =>
    cases op with
    | switchAxis index disable =>
      have hindex : index < state.registry.axes.length := by
        rw [← eq_of_beq hreaches]
        exact Registry.axis_lt_of_motor? mounted
      simp only [disables, hindex, decide_true, Bool.and_true] at h
      simp [command?, DriverCommand.switch?, h]
    | switchAll disable =>
      simp only [disables] at h
      simp [command?, DriverCommand.switch?, h]
    | homing mask on => simp [command?, DriverCommand.switch?]
    | suppress op => simp [command?]
  next => simp

/-- Enabling all motors without a fault is the switching of all motors. -/
theorem eq_of_enablesAll {op : ReadyOp} {state : MachineState D}
    (h : (op.deed state).enablesAll = true) :
    op = switchAll false ∧
      (SharedOutput.disable.drive false state.registry.disableLine).answer = true := by
  cases op with
  | switchAll disable =>
    cases disable with
    | true => cases h
    | false =>
      simp only [deed, perform, Registry.setDisable_eq] at h
      cases hanswer : (SharedOutput.disable.drive false state.registry.disableLine).answer with
      | true => exact ⟨rfl, rfl⟩
      | false => simp [hanswer, ReadyDeed.enablesAll] at h
  | switchAxis => cases h
  | homing => cases h
  | suppress => cases h

theorem lastSwitch_of_enablesAll {op : ReadyOp} {state : MachineState D}
    (inPlace : state.registry.InPlace) {place : Place} {motor : Motor D}
    (mounted : state.registry.motor? place = some motor)
    (h : (op.deed state).enablesAll = true) :
    lastSwitch place (op.perform state).events = some false := by
  rw [op.lastSwitch_perform inPlace mounted, (eq_of_enablesAll h).1]
  rfl

theorem line_ne_of_not_disables {op : ReadyOp} {state : MachineState D}
    (h : op.disables state.registry.axes.length = false) :
    lastAsked (op.perform state).events ≠ some true ∧
      lastWritten (op.perform state).events ≠ some true := by
  rw [lastAsked, lastWritten, op.disableWrites_perform]
  cases op with
  | switchAll disable =>
    obtain rfl : disable = false := h
    simp only [disableWrites_drive]
    split
    · cases (SharedOutput.disable.drive false state.registry.disableLine).answer <;>
        simp [latest?]
    · simp
  | switchAxis => simp
  | homing => simp
  | suppress => simp

theorem line_of_enablesAll {op : ReadyOp} {state : MachineState D}
    (wired : state.registry.wired = true) (h : (op.deed state).enablesAll = true) :
    lastAsked (op.perform state).events = some false ∧
      lastWritten (op.perform state).events = some false := by
  obtain ⟨rfl, hanswer⟩ := eq_of_enablesAll h
  rw [lastAsked, lastWritten, disableWrites_perform]
  rw [Registry.wired] at wired
  simp only [disableWrites_drive, hanswer]
  rw [if_pos wired]
  simp [latest?]

end ReadyOp

/-! ### Sessions -/

namespace Session

/-- What stands of a last switching while the mark is clear: it does not disable, and it enables
once all motors were enabled. -/
structure Released (session : Session D) (last : Option Bool) : Prop where
  ne_disabled : session.state.mark.isSet = false → last ≠ some true
  eq_enabled : session.state.mark.isSet = false →
    (∃ deed ∈ session.deeds, deed.enablesAll = true) → last = some false

theorem Released.next {session : Session D} {last : Option Bool} (released : session.Released last)
    {op : ReadyOp} {new : Option Bool} (nonempty : 0 < session.state.registry.axes.length)
    (calm : op.disables session.state.registry.axes.length = false → new ≠ some true)
    (enabled : (op.deed session.state).enablesAll = true → new = some false) :
    (session.next op).Released (new.or last) := by
  have hmark := op.mark_perform nonempty
  cases henables : (op.deed session.state).enablesAll with
  | true =>
    rw [enabled henables]
    exact ⟨fun _ ↦ by simp, fun _ _ ↦ rfl⟩
  | false =>
    rw [henables, Bool.not_false, Bool.true_and] at hmark
    have hclear (h : (session.next op).state.mark.isSet = false) :
        session.state.mark.isSet = false ∧ new ≠ some true := by
      obtain ⟨hbefore, hcalm⟩ := Bool.or_eq_false_iff.mp (hmark.symm.trans h)
      exact ⟨hbefore, calm hcalm⟩
    refine ⟨fun h ↦ ?_, fun h hexists ↦ ?_⟩
    · obtain ⟨hbefore, hnew⟩ := hclear h
      cases new with
      | none => exact released.ne_disabled hbefore
      | some value => exact hnew
    · obtain ⟨hbefore, hnew⟩ := hclear h
      obtain ⟨deed, hdeed, hdeedEnables⟩ := hexists
      have hold : last = some false := by
        rcases List.mem_append.mp hdeed with hmem | hmem
        · exact released.eq_enabled hbefore ⟨deed, hmem, hdeedEnables⟩
        · rw [List.mem_singleton.mp hmem] at hdeedEnables
          exact absurd (henables.symm.trans hdeedEnables) Bool.false_ne_true
      rcases new with _ | _ | _
      · exact hold
      · rfl
      · exact absurd rfl hnew

/-- What every operation keeps of a session of a registry. -/
structure InForm (registry : Registry .ready D) (session : Session D) : Prop where
  frame : session.state.registry.frame = registry.frame
  wired : session.state.registry.wired = registry.wired
  mounted : ∀ place, (session.state.registry.motor? place).isSome = (registry.motor? place).isSome
  mark_iff : session.state.mark.isSet = true ↔
    ∃ deed ∈ since ReadyDeed.enablesAll session.deeds,
      deed.op.disables registry.axes.length = true
  switched : ∀ place, (registry.motor? place).isSome = true →
    session.Released (lastSwitch place session.events)
  asked : registry.wired = true → session.Released (lastAsked session.events)
  written : registry.wired = true → session.Released (lastWritten session.events)
  unwired : registry.wired = false → disableWrites session.events = []

theorem InForm.next {registry : Registry .ready D} {session : Session D}
    (inForm : InForm registry session) (inPlace : registry.InPlace)
    (nonempty : 0 < registry.axes.length) (op : ReadyOp) : InForm registry (session.next op) := by
  have hinPlace : session.state.registry.InPlace := inPlace.of_frame inForm.frame.symm
  have hlength := Registry.length_axes_of_frame inForm.frame
  have hnonempty : 0 < session.state.registry.axes.length := hlength ▸ nonempty
  refine
    { frame := (op.frame_perform session.state).trans inForm.frame
      wired := (op.wired_perform session.state).trans inForm.wired
      mounted := fun place ↦ ?_
      mark_iff := ?_
      switched := fun place hplace ↦ ?_
      asked := fun hwired ↦ ?_
      written := fun hwired ↦ ?_
      unwired := fun hwired ↦ ?_ }
  · rw [← inForm.mounted, Session.next, op.motor?_perform hinPlace, Option.isSome_map]
  · have hdeeds : (session.next op).deeds = session.deeds ++ [op.deed session.state] := rfl
    have hmark : (session.next op).state.mark.isSet = _ := op.mark_perform hnonempty
    rw [hdeeds, hmark]
    cases henables : (op.deed session.state).enablesAll with
    | true => simp [since_concat_of_resets _ henables]
    | false =>
      rw [since_concat _ henables, hlength, Bool.not_false, Bool.true_and, Bool.or_eq_true,
        inForm.mark_iff]
      simp [or_and_right, exists_or, ReadyOp.deed]
  · obtain ⟨motor, hmotor⟩ := Option.isSome_iff_exists.mp ((inForm.mounted place).trans hplace)
    rw [events_next, lastSwitch_append]
    exact (inForm.switched place hplace).next hnonempty
      (ReadyOp.lastSwitch_ne_of_not_disables hinPlace hmotor)
      (ReadyOp.lastSwitch_of_enablesAll hinPlace hmotor)
  · rw [events_next, lastAsked_append]
    exact (inForm.asked hwired).next hnonempty (fun h ↦ (ReadyOp.line_ne_of_not_disables h).1)
      fun h ↦ (ReadyOp.line_of_enablesAll (inForm.wired.trans hwired) h).1
  · rw [events_next, lastWritten_append]
    exact (inForm.written hwired).next hnonempty (fun h ↦ (ReadyOp.line_ne_of_not_disables h).2)
      fun h ↦ (ReadyOp.line_of_enablesAll (inForm.wired.trans hwired) h).2
  · rw [events_next, disableWrites_append, inForm.unwired hwired, op.disableWrites_perform]
    cases op with
    | switchAll disable =>
      have hline := inForm.wired.trans hwired
      rw [Registry.wired] at hline
      simp [disableWrites_drive, hline]
    | switchAxis => rfl
    | homing => rfl
    | suppress => rfl

theorem inForm_along {registry : Registry .ready D} (inPlace : registry.InPlace)
    (nonempty : 0 < registry.axes.length) (ops : List ReadyOp) :
    InForm registry (along registry ops) :=
  along_induction (P := InForm registry)
    { frame := rfl
      wired := rfl
      mounted := fun _ ↦ rfl
      mark_iff := by simp
      switched := fun _ _ ↦ ⟨fun _ ↦ nofun, by simp⟩
      asked := fun _ ↦ ⟨fun _ ↦ nofun, by simp⟩
      written := fun _ ↦ ⟨fun _ ↦ nofun, by simp⟩
      unwired := fun _ ↦ rfl }
    (fun _ op h ↦ h.next inPlace nonempty op) ops

/-- What the mark, the delays that are owed, the drivers and the disable line come to in a session
of a registry. -/
structure MarkKept (registry : Registry .ready D) (session : Session D) : Prop where
  /-- The mark is set exactly if motors were disabled since all were last enabled. -/
  mark_iff : session.state.mark.isSet = true ↔
    ∃ deed ∈ since ReadyDeed.enablesAll session.deeds,
      deed.op.disables registry.axes.length = true
  /-- Enabling all motors while the mark is set owes the whole delay, and nothing else owes any. -/
  settle_eq : ∀ disable settle,
    (session.state.registry.setDisable disable session.state.mark).answer = .ok settle →
      settle = if !disable && session.state.mark.isSet then ⟨registry.disableDelay⟩ else .none
  /-- All motors are switched without a fault unless the write to the disable line fails. -/
  fault_iff : ∀ disable,
    (session.state.registry.setDisable disable session.state.mark).answer = .error .line ↔
      ∃ failures, session.state.registry.disableLine = some (.wired (true :: failures))
  /-- A failed attempt to enable all motors leaves the mark alone. -/
  mark_of_fault : ∀ fault,
    (session.state.registry.setDisable false session.state.mark).answer = .error fault →
      (session.state.registry.setDisable false session.state.mark).state.2 = session.state.mark
  /-- While the mark is clear, no motor was left disabled. -/
  switched : session.state.mark.isSet = false →
    ∀ place motor, registry.motor? place = some motor →
      lastSwitch place session.events ≠ some true ∧
        ((∃ deed ∈ session.deeds, deed.enablesAll = true) →
          lastSwitch place session.events = some false)
  /-- While the mark is clear, the disable line was not left high. -/
  line : session.state.mark.isSet = false →
    lastAsked session.events ≠ some true ∧ lastWritten session.events ≠ some true ∧
      (registry.wired = true → (∃ deed ∈ session.deeds, deed.enablesAll = true) →
        lastAsked session.events = some false ∧ lastWritten session.events = some false)
  /-- Each driver is as the commands to its place left it. -/
  drivers : ∀ place, session.state.registry.motor? place =
    (registry.motor? place).map (Motor.mapDriver (obeying (commandsTo place session.events)))

theorem drive_answer_eq_false_iff {output : SharedOutput} {high : Bool} {line : Option SharedLine} :
    (output.drive high line).answer = false ↔
      ∃ failures, line = some (.wired (true :: failures)) := by
  rcases line with _ | failures | _
  · simp [SharedOutput.drive, Outcome.still]
  · rcases failures with _ | ⟨_ | _, failures⟩ <;> simp [SharedOutput.drive]
  · simp [SharedOutput.drive, Outcome.still]

/-- The mark is kept along every session of a registry that was built. -/
theorem markKept_along {registry : Registry .ready D} (built : registry.Built)
    (ops : List ReadyOp) : MarkKept registry (along registry ops) := by
  have hnonempty : 0 < registry.axes.length := Nat.lt_of_lt_of_le (by decide) built.length_axes.1
  have inForm := inForm_along built.inPlace hnonempty ops
  have hdelay := Registry.disableDelay_of_frame inForm.frame
  refine
    { mark_iff := inForm.mark_iff
      settle_eq := fun disable settle h ↦ ?_
      fault_iff := fun disable ↦ ?_
      mark_of_fault := fun fault h ↦ ?_
      switched := fun hclear place motor hmotor ↦ ?_
      line := fun hclear ↦ ?_
      drivers := motor?_along built.inPlace ops }
  · simp only [Registry.setDisable_eq] at h
    split at h
    · rw [← Except.ok.inj h, hdelay]
    · cases h
  · rw [← drive_answer_eq_false_iff, Registry.setDisable_eq]
    cases (SharedOutput.disable.drive disable _).answer <;> simp
  · simp only [Registry.setDisable_eq] at h ⊢
    split at h
    next => cases h
    next hfailed => simp [hfailed]
  · have hreleased := inForm.switched place (Option.isSome_iff_exists.mpr ⟨motor, hmotor⟩)
    exact ⟨hreleased.ne_disabled hclear, hreleased.eq_enabled hclear⟩
  · cases hwired : registry.wired with
    | false =>
      have hnone := inForm.unwired hwired
      simp [lastAsked, lastWritten, hnone]
    | true =>
      exact ⟨(inForm.asked hwired).ne_disabled hclear, (inForm.written hwired).ne_disabled hclear,
        fun _ hexists ↦ ⟨(inForm.asked hwired).eq_enabled hclear hexists,
          (inForm.written hwired).eq_enabled hclear hexists⟩⟩

def oneMotorAxis : Axis NullMotor :=
  { (Axis.ofIndex 0 : Axis NullMotor) with motors := #v[some (.ofDriver {}), none] }

/-- A machine with one motor, whose disable line fails once. -/
def failingOnce : Registry .ready NullMotor :=
  let builder : Builder NullMotor :=
    { axes := (Vector.replicate _ none).set 0 (some oneMotorAxis)
      disableDelay := 250
      disableLine := some (.wired [true]) }
  ((builder.finish.mapDrivers MotorDriver.init).mapDrivers MotorDriver.configure).atStage .ready

theorem built_failingOnce : failingOnce.Built := by
  refine ⟨_, .disableDelay 250 (.disableLine (some (.wired [true]))
    (.addAxis oneMotorAxis .empty rfl)), ?_⟩
  rw [Registry.bringUp_eq]
  rfl

/-- The delay is still owed after the attempt that fails. -/
theorem markKept_failingOnce :
    failingOnce.Built ∧
      MarkKept failingOnce (along failingOnce [.switchAxis 0 true, .switchAll false]) ∧
      (along failingOnce [.switchAxis 0 true, .switchAll false]).state.mark.isSet = true ∧
      ((along failingOnce [.switchAxis 0 true, .switchAll false]).state.registry.setDisable false
        (along failingOnce [.switchAxis 0 true, .switchAll false]).state.mark).answer =
          .ok ⟨250⟩ :=
  ⟨built_failingOnce, markKept_along built_failingOnce _, by rfl, by rfl⟩

end Session

end MotionControl
