import Mathlib.Data.List.Sort
import MotionControl.Proofs.Registry.Configuration
import MotionControl.Proofs.Registry.Continuation

/-!
# The order of commands and line writes

What a registry does to its drivers and lines, from the moment it is brought up, goes by one list of
places, those of its motors in the order of axes and slots (`Builder.EventOrder`). The reset line is
written once, before any driver is commanded; if that fails, nothing follows. All drivers are
brought up before the first motor is configured. From then on each operation passes through the
places it reaches in the same order, and only the switching of all motors writes a line, after the
last driver was commanded.

The drivers go by what happened, and by nothing else: once the registry is up, and after whatever
operations follow, each driver is what the commands to its place make of it.
-/

set_option autoImplicit false
set_option relaxedAutoImplicit false

namespace MotionControl

variable {D : Type}

/-! ### Shared lines -/

/-- Whether the next write to the line fails. -/
def SharedLine.fails : SharedLine → Bool
  | wired failures => failures.headD false
  | unconnected => false

/-- Only a line that is wired can fail. -/
theorem SharedLine.any_isWired_of_any_fails {line : Option SharedLine}
    (h : line.any SharedLine.fails = true) : line.any SharedLine.isWired = true := by
  rcases line with _ | failures | _
  · cases h
  · rfl
  · cases h

theorem SharedOutput.drive_answer (output : SharedOutput) (high : Bool)
    (line : Option SharedLine) :
    (output.drive high line).answer = !line.any SharedLine.fails := by
  rcases line with _ | _ | _ <;> rfl

/-! ### Traffic -/

/-- Whether the event is a command to a driver or a write to a line. -/
def MachineEvent.isTraffic : MachineEvent → Bool
  | driver .. | write .. => true
  | _ => false

/-- The commands to drivers and the writes to lines, in order. -/
def traffic (events : List MachineEvent) : List MachineEvent :=
  events.filter MachineEvent.isTraffic

theorem traffic_append (first second : List MachineEvent) :
    traffic (first ++ second) = traffic first ++ traffic second :=
  List.filter_append ..

@[simp] theorem traffic_log (entry : LogEntry) (events : List MachineEvent) :
    traffic (.log entry :: events) = traffic events := rfl

@[simp] theorem traffic_map (places : List Place) (command : DriverCommand) :
    traffic (places.map (MachineEvent.driver · command)) =
      places.map (MachineEvent.driver · command) := by
  refine List.filter_eq_self.mpr fun event hevent ↦ ?_
  obtain ⟨place, -, rfl⟩ := List.mem_map.mp hevent
  rfl

/-- A line that is wired is written once. -/
theorem traffic_drive (output : SharedOutput) (high : Bool) (line : Option SharedLine) :
    traffic (output.drive high line).events =
      if line.any SharedLine.isWired then [.write output high (line.any SharedLine.fails)]
      else [] := by
  rcases line with _ | _ | _ <;> rfl

/-- A command to a driver is traffic. -/
theorem commandsTo_traffic (place : Place) (events : List MachineEvent) :
    commandsTo place (traffic events) = commandsTo place events := by
  rw [commandsTo, traffic, List.filterMap_filter, commandsTo]
  refine List.filterMap_congr fun event _ ↦ ?_
  cases event <;> rfl

theorem mem_traffic_write {output : SharedOutput} {high failed : Bool}
    {events : List MachineEvent} :
    .write output high failed ∈ traffic events ↔ .write output high failed ∈ events := by
  simp [traffic, MachineEvent.isTraffic]

/-! ### Places in order -/

instance : Std.Irrefl Place.Before := ⟨fun place ↦ by simp [Place.Before]⟩

instance : Std.Antisymm Place.Before :=
  ⟨fun place other h h' ↦ by simp only [Place.Before] at h h'; omega⟩

namespace Registry

variable {stage : Stage}

/-- The motors of some axes are found among all motors, in the same order. -/
theorem mounted_eq_filter (registry : Registry stage D) {indices : List Nat}
    (ascending : indices.Pairwise (· < ·)) :
    registry.mounted indices =
      (registry.mounted (List.range registry.axes.length)).filter (indices.contains ·.axis) := by
  refine (registry.pairwise_mounted ascending).eq_of_mem_iff
    ((registry.pairwise_mounted List.pairwise_lt_range).filter _) fun place ↦ ?_
  rw [List.mem_filter, mem_mounted, mem_mounted, List.mem_range, List.contains_iff_mem]
  constructor
  · rintro ⟨hindex, hsome⟩
    obtain ⟨motor, hmotor⟩ := Option.isSome_iff_exists.mp hsome
    exact ⟨⟨axis_lt_of_motor? hmotor, hsome⟩, hindex⟩
  · rintro ⟨⟨-, hsome⟩, hindex⟩
    exact ⟨hindex, hsome⟩

/-- If every axis stands at its index, the places of the motors are in order, and no motor is left
out. -/
theorem InPlace.places_eq {registry : Registry stage D} (inPlace : registry.InPlace) :
    registry.places = registry.mounted (List.range registry.axes.length) := by
  rw [← placesAt_range, inPlace.placesAt]

theorem InPlace.pairwise_places {registry : Registry stage D} (inPlace : registry.InPlace) :
    registry.places.Pairwise Place.Before := by
  rw [inPlace.places_eq]
  exact registry.pairwise_mounted List.pairwise_lt_range

theorem InPlace.mem_places {registry : Registry stage D} (inPlace : registry.InPlace)
    {place : Place} : place ∈ registry.places ↔ (registry.motor? place).isSome = true := by
  rw [inPlace.places_eq, mem_mounted, List.mem_range, and_iff_right_iff_imp]
  intro hsome
  obtain ⟨motor, hmotor⟩ := Option.isSome_iff_exists.mp hsome
  exact axis_lt_of_motor? hmotor

end Registry

variable [MotorDriver D]

/-! ### Bringing up -/

namespace Registry

theorem bringUp_of_fails {assembled : Registry .parsed D}
    (h : assembled.resetLine.any SharedLine.fails = true) : assembled.bringUp.1 = .error .line := by
  simp [bringUp_eq, SharedOutput.drive_answer, h]

theorem exists_bringUp_of_fails_eq_false {assembled : Registry .parsed D}
    (h : assembled.resetLine.any SharedLine.fails = false) :
    ∃ registry, assembled.bringUp.1 = .ok registry := by
  simp [bringUp_eq, SharedOutput.drive_answer, h]

theorem fails_eq_false_of_bringUp {assembled : Registry .parsed D} {registry : Registry .ready D}
    (up : assembled.bringUp.1 = .ok registry) :
    assembled.resetLine.any SharedLine.fails = false := by
  refine Bool.eq_false_iff.mpr fun hfails ↦ ?_
  cases up.symm.trans (bringUp_of_fails hfails)

/-- Bringing a registry up: the reset line, then all drivers, then all motors. -/
theorem traffic_bringUp (assembled : Registry .parsed D) : traffic assembled.bringUp.2 =
    (if assembled.resetLine.any SharedLine.isWired then
        [.write .reset true (assembled.resetLine.any SharedLine.fails)] else []) ++
      if assembled.resetLine.any SharedLine.fails then []
      else
        assembled.places.map (.driver · .init) ++ assembled.places.map (.driver · .configure) := by
  have hreports : traffic (assembled.axes.flatMap fun axis ↦
      axisReport axis :: axis.places.map (MachineEvent.driver · .init)) =
        assembled.places.map (MachineEvent.driver · .init) := by
    rw [traffic, List.filter_flatMap, places, List.map_flatMap]
    exact congrArg (assembled.axes.flatMap ·) (funext fun axis ↦ traffic_map axis.places .init)
  have hnotice (condition : Bool) (entry : LogEntry) :
      traffic (if condition then [.log entry] else []) = [] := by cases condition <;> rfl
  have hwrite : traffic assembled.opening =
      if assembled.resetLine.any SharedLine.isWired then
        [.write .reset true (assembled.resetLine.any SharedLine.fails)] else [] := by
    rw [opening, List.cons_append, traffic_log, traffic_append, hnotice, List.nil_append,
      traffic_drive]
  rw [bringUp_eq, SharedOutput.drive_answer]
  cases hfails : assembled.resetLine.any SharedLine.fails with
  | true =>
    rw [hfails] at hwrite
    exact hwrite.trans (List.append_nil _).symm
  | false =>
    rw [hfails] at hwrite
    simp only [Bool.not_false, if_true, traffic_append, hwrite, hnotice, hreports, traffic_map]
    simp

/-- Each driver comes up as the commands to its place make it: first it is brought up, and then its
motor is configured. -/
theorem InPlace.motor?_bringUp_eq {assembled : Registry .parsed D} {registry : Registry .ready D}
    (inPlace : assembled.InPlace) (up : assembled.bringUp.1 = .ok registry) (place : Place) :
    registry.motor? place = (assembled.motor? place).map
      (Motor.mapDriver (obeying (commandsTo place assembled.bringUp.2))) := by
  have hnodup : assembled.places.Nodup := Place.nodup_of_pairwise inPlace.pairwise_places
  rw [motor?_bringUp up]
  cases hmotor : assembled.motor? place with
  | none => rfl
  | some motor =>
    have hmem : place ∈ assembled.places := inPlace.mem_places.mpr (by rw [hmotor]; rfl)
    have hcommands : commandsTo place assembled.bringUp.2 = [.init, .configure] := by
      rw [← commandsTo_traffic, traffic_bringUp, fails_eq_false_of_bringUp up, commandsTo_append]
      simp only [Bool.false_eq_true, if_false, commandsTo_append, commandsTo_map hnodup, hmem,
        if_true]
      split <;> rfl
    rw [hcommands]
    rfl

end Registry

/-! ### Operations in order -/

/-- What an operation does to the drivers at some places and to the disable line, in order, and that
it reports a fault exactly if the write to the line failed. -/
def ReadyDeed.InOrder (places : List Place) (wired : Bool) (deed : ReadyDeed) : Prop :=
  match deed.op with
  | .switchAxis index disable =>
    traffic deed.events =
      (places.filter (·.axis == index)).map (.driver · (.setDisable disable))
  | .switchAll disable => ∃ failed,
    traffic deed.events = places.map (.driver · (.setDisable disable)) ++
        (if wired then [.write .disable disable failed] else []) ∧
      (deed.answer = .switched (.error .line) ↔ wired = true ∧ failed = true)
  | .homing mask on =>
    traffic deed.events =
      (places.filter (mask.contains ·.axis)).map (.driver · (.setHoming on false))
  | .suppress _ => traffic deed.events = []

/-- No operation that is in order writes the reset line. -/
theorem ReadyDeed.InOrder.not_mem_reset {places : List Place} {wired : Bool} {deed : ReadyDeed}
    (inOrder : deed.InOrder places wired) (high failed : Bool) :
    .write .reset high failed ∉ deed.events := by
  rw [← mem_traffic_write]
  unfold InOrder at inOrder
  split at inOrder
  · simp [inOrder]
  · obtain ⟨_, htraffic, -⟩ := inOrder
    cases wired <;> simp [htraffic]
  · simp [inOrder]
  · simp [inOrder]

/-- An operation passes through the places of the registry in their order. -/
theorem ReadyOp.inOrder_perform (op : ReadyOp) {state : MachineState D}
    (inPlace : state.registry.InPlace) :
    (op.deedIn state).InOrder state.registry.places state.registry.wired := by
  have hmounted {indices : List Nat} (ascending : indices.Pairwise (· < ·)) :
      state.registry.mounted indices =
        state.registry.places.filter (indices.contains ·.axis) := by
    rw [inPlace.places_eq, ← Registry.mounted_eq_filter _ ascending]
  cases op with
  | switchAxis index disable =>
    simp only [ReadyDeed.InOrder, deedIn, perform, Registry.setDisableAxis_eq,
      Registry.switchEvents, inPlace.placesAt, hmounted (List.pairwise_singleton ..), traffic_map]
    congr 1
    refine List.filter_congr fun place _ ↦ ?_
    rw [List.contains_cons, List.contains_nil, Bool.or_false]
  | switchAll disable =>
    refine ⟨state.registry.disableLine.any SharedLine.fails, ?_, ?_⟩
    · simp only [deedIn, perform, Registry.setDisable_eq, Registry.switchEvents, traffic_append,
        traffic_map, traffic_drive]
      rfl
    · simp only [deedIn, perform, Registry.setDisable_eq, SharedOutput.drive_answer]
      cases hfails : state.registry.disableLine.any SharedLine.fails with
      | false => simp
      | true => simp [Registry.wired, SharedLine.any_isWired_of_any_fails hfails]
  | homing mask on =>
    simp only [ReadyDeed.InOrder, deedIn, perform, Registry.setHoming_eq, Registry.homingEvents,
      traffic_append, hmounted (state.registry.pairwise_homingAxes mask), traffic_map, traffic_log]
    rw [show traffic [] = [] from rfl, List.append_nil]
    congr 1
    refine List.filter_congr fun place hplace ↦ ?_
    rw [inPlace.places_eq, Registry.mem_mounted, List.mem_range] at hplace
    simp [Registry.mem_homingAxes, hplace.1]
  | suppress op => rfl

/-- So does a whole session, since it moves no motor. -/
theorem Session.inOrder_onward (state : MachineState D) (inPlace : state.registry.InPlace)
    (ops : List ReadyOp) : ∀ deed ∈ (onward state ops).deeds,
      deed.InOrder state.registry.places state.registry.wired := by
  intro deed hdeed
  obtain ⟨earlier, heq⟩ := exists_deedIn_of_mem hdeed
  have hinPlace : (onward state earlier).state.registry.InPlace :=
    inPlace.of_frame (frame_onward state earlier).symm
  have inOrder := deed.op.inOrder_perform hinPlace
  rwa [← heq, places_onward, wired_onward] at inOrder

/-! ### From the assembled registry on -/

/-- The order of all commands and writes of a registry, from the moment it is brought up. -/
structure Builder.EventOrder (builder : Builder D) : Prop where
  /-- The places go by axis and slot, none twice. -/
  ascending : builder.finish.places.Pairwise Place.Before
  mem_places : ∀ place,
    place ∈ builder.finish.places ↔ (builder.finish.motor? place).isSome = true
  /-- If the write to the reset line fails, nothing else happens. -/
  refused : builder.resetLine.any SharedLine.fails = true →
    builder.finish.bringUp.1 = .error .line ∧
      traffic builder.finish.bringUp.2 = [.write .reset true true]
  /-- Otherwise all drivers are brought up, and then all motors are configured. -/
  broughtUp : builder.resetLine.any SharedLine.fails = false →
    (∃ registry, builder.finish.bringUp.1 = .ok registry) ∧
      traffic builder.finish.bringUp.2 =
        (if builder.resetLine.any SharedLine.isWired then [.write .reset true false] else []) ++
          builder.finish.places.map (.driver · .init) ++
          builder.finish.places.map (.driver · .configure)
  /-- Each driver comes up as the commands to its place make it. -/
  broughtUpDrivers : ∀ registry, builder.finish.bringUp.1 = .ok registry → ∀ place,
    registry.motor? place = (builder.finish.motor? place).map
      (Motor.mapDriver (obeying (commandsTo place builder.finish.bringUp.2)))
  /-- Bringing the registry up never writes the disable line. -/
  disableLine : ∀ high failed, .write .disable high failed ∉ builder.finish.bringUp.2
  /-- Whatever operations follow, each of them is in order. -/
  session : ∀ registry, builder.finish.bringUp.1 = .ok registry → ∀ mark suppression ops,
    (Session.onward { registry, mark, suppression } ops).deeds.map ReadyDeed.op = ops ∧
      ∀ deed ∈ (Session.onward { registry, mark, suppression } ops).deeds,
        deed.InOrder builder.finish.places (builder.disableLine.any SharedLine.isWired)
  /-- They leave each driver as the commands to its place make it. -/
  sessionDrivers : ∀ registry, builder.finish.bringUp.1 = .ok registry →
    ∀ mark suppression ops place,
      (Session.onward { registry, mark, suppression } ops).state.registry.motor? place =
        (registry.motor? place).map (Motor.mapDriver
          (obeying (commandsTo place (Session.onward { registry, mark, suppression } ops).events)))
  /-- And none of them writes the reset line. -/
  resetLine : ∀ registry, builder.finish.bringUp.1 = .ok registry →
    ∀ mark suppression ops high failed, .write .reset high failed ∉
      (Session.onward { registry, mark, suppression } ops).events

namespace Registry

/-- The places of the motors and the wiring of the disable line are those of the registry before it
was brought up. -/
theorem places_bringUp {assembled : Registry .parsed D} {registry : Registry .ready D}
    (inPlace : assembled.InPlace) (inPlace' : registry.InPlace)
    (up : assembled.bringUp.1 = .ok registry) :
    registry.places = assembled.places ∧ registry.wired = assembled.wired := by
  have hfields := bringUp_eq_ok up
  have hlength : registry.axes.length = assembled.axes.length := by
    rw [hfields]
    simp [atStage, mapDrivers]
  refine ⟨?_, ?_⟩
  · rw [inPlace.places_eq, inPlace'.places_eq, hlength, mounted, mounted]
    refine List.filter_congr fun place _ ↦ ?_
    rw [motor?_bringUp up, Option.isSome_map]
  · rw [hfields]
    rfl

end Registry

/-- Whatever was assembled, it is brought up and operated in order. -/
theorem Builder.Assembled.eventOrder {builder : Builder D} (assembled : builder.Assembled) :
    builder.EventOrder := by
  have inPlace : builder.finish.InPlace := .finish assembled.inPlace
  have hbringUp := Registry.traffic_bringUp builder.finish
  have hinPlace {registry : Registry .ready D} (up : builder.finish.bringUp.1 = .ok registry) :
      registry.InPlace := Registry.Built.inPlace ⟨builder, assembled, up⟩
  have hsession {registry : Registry .ready D} (up : builder.finish.bringUp.1 = .ok registry)
      (mark : DisabledMark) (suppression : Suppression) (ops : List ReadyOp) :
      ∀ deed ∈ (Session.onward { registry, mark, suppression } ops).deeds,
        deed.InOrder builder.finish.places (builder.disableLine.any SharedLine.isWired) := by
    obtain ⟨hplaces, hwired⟩ := Registry.places_bringUp inPlace (hinPlace up) up
    have inOrder := Session.inOrder_onward ⟨registry, mark, suppression⟩ (hinPlace up) ops
    rwa [hplaces, hwired] at inOrder
  constructor
  case ascending => exact inPlace.pairwise_places
  case mem_places => exact fun place ↦ inPlace.mem_places
  case refused =>
    intro fails
    have hfails : builder.finish.resetLine.any SharedLine.fails = true := fails
    refine ⟨Registry.bringUp_of_fails hfails, ?_⟩
    rw [hbringUp, hfails, SharedLine.any_isWired_of_any_fails hfails]
    rfl
  case broughtUp =>
    intro fails
    have hfails : builder.finish.resetLine.any SharedLine.fails = false := fails
    refine ⟨Registry.exists_bringUp_of_fails_eq_false hfails, ?_⟩
    rw [hbringUp, hfails, List.append_assoc]
    rfl
  case broughtUpDrivers =>
    intro registry up place
    exact inPlace.motor?_bringUp_eq up place
  case disableLine =>
    intro high failed
    rw [← mem_traffic_write, hbringUp]
    split <;> split <;> simp
  case session =>
    intro registry up mark suppression ops
    exact ⟨Session.map_op_onward .., hsession up mark suppression ops⟩
  case sessionDrivers =>
    intro registry up mark suppression ops place
    exact Session.motor?_eq_obeying _ (hinPlace up) ops place
  case resetLine =>
    intro registry up mark suppression ops high failed hwrite
    obtain ⟨deed, hdeed, hevent⟩ := List.mem_flatMap.mp hwrite
    exact (hsession up mark suppression ops deed hdeed).not_mem_reset high failed hevent

def axisWithPrimary : Axis NullMotor :=
  { (Axis.ofIndex 3 : Axis NullMotor) with motors := .push (.singleton (some (.ofDriver {}))) none }

def axisWithSecondary : Axis NullMotor :=
  { (Axis.ofIndex 0 : Axis NullMotor) with motors := #v[none, some (.ofDriver {})] }

/-- Two axes with a motor each, and a disable line whose second write fails. -/
def twoMotors : Builder NullMotor :=
  { axes := #v[some axisWithSecondary, none, none, some axisWithPrimary, none, none]
    disableLine := some (.wired [false, true])
    resetLine := some (.wired []) }

theorem eventOrder_twoMotors :
    twoMotors.Assembled ∧ twoMotors.EventOrder ∧
      traffic twoMotors.finish.bringUp.2 =
        [.write .reset true false, .driver ⟨0, 1⟩ .init, .driver ⟨3, 0⟩ .init,
          .driver ⟨0, 1⟩ .configure, .driver ⟨3, 0⟩ .configure] ∧
      ∃ registry, twoMotors.finish.bringUp.1 = .ok registry ∧
        ∀ deed ∈ (Session.onward { registry } [.switchAll true, .switchAxis 3 false,
            .switchAll false]).deeds, deed.InOrder [⟨0, 1⟩, ⟨3, 0⟩] true := by
  have hprimary : Builder.Assembled
      { axes := #v[none, none, none, some axisWithPrimary, none, none] } :=
    .addAxis axisWithPrimary .empty rfl
  have hboth : Builder.Assembled { axes := twoMotors.axes } :=
    .addAxis axisWithSecondary hprimary rfl
  have assembled : twoMotors.Assembled :=
    .resetLine (some (.wired [])) (.disableLine (some (.wired [false, true])) hboth)
  have order : twoMotors.EventOrder := assembled.eventOrder
  obtain ⟨⟨registry, hup⟩, htraffic⟩ := order.broughtUp rfl
  exact ⟨assembled, order, htraffic, registry, hup, (order.session registry hup _ _ _).2⟩

end MotionControl
