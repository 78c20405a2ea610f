import MotionControl.Registry.Basic
import MotionControl.Registry.Command

/-!
# What reaches the drivers

Every operation of a registry that is up changes the drivers at some places, all of them in the same
way, and leaves everything else alone. `Registry.reach` is that change. Registries that agree at
each place and without their motors are equal (`Registry.ext_motor?`), so what an operation comes to
is known once it is known place by place.

A command to an axis goes from slot to slot. No slot is passed twice, so each driver is changed once
by the command, and the events name the occupied slots in order (`Axis.commandAll_eq`).
-/

set_option autoImplicit false
set_option relaxedAutoImplicit false

namespace MotionControl

variable {stage : Stage} {D : Type}

theorem Place.ofAxis_eq_map (axis : Nat) :
    Place.ofAxis axis = (List.range slotsPerAxis).map (Place.mk axis) := rfl

theorem Place.mem_ofAxis {place : Place} {axis : Nat} :
    place ∈ Place.ofAxis axis ↔ place.axis = axis ∧ place.slot < slotsPerAxis := by
  rw [Place.ofAxis_eq_map, List.mem_map]
  constructor
  · rintro ⟨slot, hslot, rfl⟩
    exact ⟨rfl, List.mem_range.mp hslot⟩
  · rintro ⟨rfl, hslot⟩
    exact ⟨place.slot, List.mem_range.mpr hslot, rfl⟩

/-- The order of places by axis and slot. -/
def Place.Before (place other : Place) : Prop :=
  place.axis < other.axis ∨ place.axis = other.axis ∧ place.slot < other.slot

/-- The places of axes in ascending order ascend. -/
theorem Place.pairwise_flatMap_ofAxis {axes : List Nat} (ascending : axes.Pairwise (· < ·)) :
    (axes.flatMap Place.ofAxis).Pairwise Place.Before := by
  refine List.pairwise_flatMap.mpr ⟨fun axis _ ↦ by simp [Place.ofAxis, Place.Before],
    ascending.imp fun hlt place hplace other hother ↦ ?_⟩
  rw [← (Place.mem_ofAxis.mp hplace).1, ← (Place.mem_ofAxis.mp hother).1] at hlt
  exact .inl hlt

theorem Place.nodup_of_pairwise {places : List Place} (ascending : places.Pairwise Place.Before) :
    places.Nodup :=
  ascending.imp fun h heq ↦ by simp [heq, Place.Before] at h

/-- Changes the driver of a motor. -/
def Motor.mapDriver (change : D → D) (motor : Motor D) : Motor D :=
  { motor with driver := change motor.driver }

/-! ### Drivers of one axis -/

namespace Axis

/-- Changes the drivers in the slots that are reached. -/
def reach (axis : Axis D) (reached : Nat → Bool) (change : D → D) : Axis D :=
  { axis with
    motors := axis.motors.mapIdx fun slot motor ↦
      motor.map fun motor ↦ if reached slot then motor.mapDriver change else motor }

/-- Changes the driver of every motor. -/
def mapDrivers (axis : Axis D) (change : D → D) : Axis D :=
  { axis with motors := axis.motors.map (Option.map (Motor.mapDriver change)) }

/-- The axis without its motors. -/
def bare (axis : Axis D) : Axis D := { axis with motors := .replicate _ none }

/-- Two axes are equal if they agree in each slot and without their motors. -/
theorem ext_motor? {a b : Axis D} (motors : ∀ slot, a.motor? slot = b.motor? slot)
    (bare : a.bare = b.bare) : a = b := by
  have hmotors : a.motors = b.motors := by
    refine Vector.ext fun slot hslot ↦ ?_
    have hslots := motors slot
    rw [motor?, motor?, Vector.getElem?_eq_getElem hslot,
      Vector.getElem?_eq_getElem hslot] at hslots
    exact hslots
  have hall : { a.bare with motors := a.motors } = { b.bare with motors := b.motors } := by
    rw [bare, hmotors]
  exact hall

theorem motor?_reach (axis : Axis D) (reached : Nat → Bool) (change : D → D) (slot : Nat) :
    (axis.reach reached change).motor? slot =
      (axis.motor? slot).map fun motor ↦
        if reached slot then motor.mapDriver change else motor := by
  rw [motor?, reach, Vector.getElem?_mapIdx, motor?]
  cases axis.motors[slot]? <;> rfl

theorem isSome_motor?_reach (axis : Axis D) (reached : Nat → Bool) (change : D → D) (slot : Nat) :
    ((axis.reach reached change).motor? slot).isSome = (axis.motor? slot).isSome := by
  rw [motor?_reach, Option.isSome_map]

@[simp] theorem places_reach (axis : Axis D) (reached : Nat → Bool) (change : D → D) :
    (axis.reach reached change).places = axis.places := by
  have hoccupied : (axis.reach reached change).occupied = axis.occupied := by
    simp [occupied, isSome_motor?_reach]
  rw [places, hoccupied]
  rfl

theorem mapDrivers_eq_reach (axis : Axis D) (change : D → D) :
    axis.mapDrivers change = axis.reach (fun _ ↦ true) change := by
  refine ext_motor? (fun slot ↦ ?_) rfl
  rw [motor?_reach, motor?, mapDrivers, Vector.getElem?_map, motor?]
  cases axis.motors[slot]? <;> rfl

/-- An axis carries no motor beyond its slots. -/
theorem slot_lt_of_motor? {axis : Axis D} {slot : Nat} {motor : Motor D}
    (h : axis.motor? slot = some motor) : slot < slotsPerAxis := by
  refine Nat.lt_of_not_le fun hslot ↦ ?_
  rw [motor?, Vector.getElem?_eq_none hslot] at h
  cases h

theorem setDriver_eq_reach {axis : Axis D} {slot : Nat} {motor : Motor D}
    (h : axis.motor? slot = some motor) (change : D → D) :
    axis.setDriver slot (change motor.driver) = axis.reach (· == slot) change := by
  refine ext_motor? (fun other ↦ ?_) rfl
  have hslot := slot_lt_of_motor? h
  rw [motor?_reach, motor?, setDriver]
  by_cases hother : other = slot
  · subst hother
    simp [Vector.getElem?_setIfInBounds_self_of_lt hslot, h, Motor.mapDriver]
  · rw [Vector.getElem?_setIfInBounds_ne (Ne.symm hother)]
    simp [hother, motor?]

theorem reach_congr {axis : Axis D} {reached reached' : Nat → Bool} {change : D → D}
    (h : ∀ slot motor, axis.motor? slot = some motor → reached slot = reached' slot) :
    axis.reach reached change = axis.reach reached' change := by
  refine ext_motor? (fun slot ↦ ?_) rfl
  rw [motor?_reach, motor?_reach]
  cases hmotor : axis.motor? slot with
  | none => rfl
  | some motor => rw [h slot motor hmotor]

theorem reach_of_forall_eq_false {axis : Axis D} {reached : Nat → Bool} {change : D → D}
    (h : ∀ slot motor, axis.motor? slot = some motor → reached slot = false) :
    axis.reach reached change = axis := by
  refine ext_motor? (fun slot ↦ ?_) rfl
  rw [motor?_reach]
  cases hmotor : axis.motor? slot with
  | none => rfl
  | some motor =>
    rw [h slot motor hmotor]
    rfl

/-- Slots that are reached one set after the other, with none reached twice. -/
theorem reach_reach (axis : Axis D) {first second : Nat → Bool} {change : D → D}
    (disjoint : ∀ slot, first slot = true → second slot = false) :
    (axis.reach first change).reach second change =
      axis.reach (fun slot ↦ first slot || second slot) change := by
  refine ext_motor? (fun slot ↦ ?_) rfl
  rw [motor?_reach, motor?_reach, motor?_reach, Option.map_map]
  refine congrArg (Option.map · _) (funext fun motor ↦ ?_)
  cases hfirst : first slot with
  | true => simp [disjoint slot hfirst]
  | false => simp

@[simp] theorem places_mapDrivers (axis : Axis D) (change : D → D) :
    (axis.mapDrivers change).places = axis.places := by
  rw [mapDrivers_eq_reach, places_reach]

/-! ### Commands to one axis -/

section

variable [MotorDriver D]

theorem commandSlot_eq (axis : Axis D) (command : DriverCommand) (slot : Nat) :
    axis.commandSlot command slot =
      { answer := ()
        state := axis.reach (· == slot) command.apply
        events := ([slot].filter fun slot ↦ (axis.motor? slot).isSome).map fun slot ↦
          .driver ⟨axis.index, slot⟩ command } := by
  unfold commandSlot
  split
  next hnone =>
    have hstate : axis.reach (· == slot) command.apply = axis := by
      refine reach_of_forall_eq_false fun other motor hmotor ↦ beq_false_of_ne fun hother ↦ ?_
      rw [hother] at hmotor
      exact Option.some_ne_none motor (hmotor.symm.trans hnone)
    simp [Outcome.still, hstate, hnone]
  next motor hmotor => simp [setDriver_eq_reach hmotor, hmotor]

theorem commandSlots_eq (command : DriverCommand) {slots : List Nat} (nodup : slots.Nodup)
    (axis : Axis D) :
    commandSlots command slots axis =
      { answer := ()
        state := axis.reach slots.contains command.apply
        events := (slots.filter fun slot ↦ (axis.motor? slot).isSome).map fun slot ↦
          .driver ⟨axis.index, slot⟩ command } := by
  -- The first slot is none of those to come, so the rest finds its drivers as they were.
  induction slots generalizing axis with
  | nil => simp [commandSlots, Outcome.still, reach_of_forall_eq_false]
  | cons slot slots ih =>
    obtain ⟨hnotMem, hnodup⟩ := List.nodup_cons.mp nodup
    have hdisjoint : ∀ other : Nat, (other == slot) = true → slots.contains other = false := by
      intro other heq
      rw [eq_of_beq heq]
      simpa using hnotMem
    have hindex : (axis.reach (· == slot) command.apply).index = axis.index := rfl
    rw [commandSlots, commandSlot_eq, ih hnodup, reach_reach _ hdisjoint, hindex]
    simp only [isSome_motor?_reach, ← List.map_append, ← List.filter_append]
    rfl

/-- A command to an axis reaches each of its drivers once, in slot order. -/
theorem commandAll_eq (axis : Axis D) (command : DriverCommand) :
    axis.commandAll command =
      { answer := ()
        state := axis.mapDrivers command.apply
        events := axis.places.map (MachineEvent.driver · command) } := by
  have hstate : axis.reach (List.range slotsPerAxis).contains command.apply =
      axis.mapDrivers command.apply := by
    rw [mapDrivers_eq_reach]
    exact reach_congr fun slot motor hmotor ↦ by simpa using slot_lt_of_motor? hmotor
  rw [commandAll, commandSlots_eq command List.nodup_range, hstate, places, List.map_map]
  rfl

end

end Axis

namespace Registry

/-! ### Drivers of a registry -/

/-- Changes the driver of every motor. -/
def mapDrivers (registry : Registry stage D) (change : D → D) : Registry stage D :=
  { registry with axes := registry.axes.map (Axis.mapDrivers · change) }

/-- Changes the drivers at the places that are reached. -/
def reach (registry : Registry stage D) (reached : Place → Bool) (change : D → D) :
    Registry stage D :=
  { registry with
    axes := registry.axes.mapIdx fun index axis ↦
      axis.reach (fun slot ↦ reached ⟨index, slot⟩) change }

@[simp] theorem length_axes_reach (registry : Registry stage D) (reached : Place → Bool)
    (change : D → D) : (registry.reach reached change).axes.length = registry.axes.length :=
  List.length_mapIdx

theorem axis?_reach (registry : Registry stage D) (reached : Place → Bool) (change : D → D)
    (index : Nat) :
    (registry.reach reached change).axis? index =
      (registry.axis? index).map (Axis.reach · (fun slot ↦ reached ⟨index, slot⟩) change) :=
  List.getElem?_mapIdx

theorem motor?_reach (registry : Registry stage D) (reached : Place → Bool) (change : D → D)
    (place : Place) :
    (registry.reach reached change).motor? place =
      (registry.motor? place).map fun motor ↦
        if reached place then motor.mapDriver change else motor := by
  rw [motor?, axis?_reach, motor?]
  cases registry.axis? place.axis with
  | none => rfl
  | some axis => exact axis.motor?_reach _ change place.slot

/-- The axis of a motor is one of the registry. -/
theorem axis_lt_of_motor? {registry : Registry stage D} {place : Place} {motor : Motor D}
    (h : registry.motor? place = some motor) : place.axis < registry.axes.length := by
  obtain ⟨axis, haxis, -⟩ := Option.bind_eq_some_iff.mp h
  exact (List.getElem?_eq_some_iff.mp haxis).1

theorem slot_lt_of_motor? {registry : Registry stage D} {place : Place} {motor : Motor D}
    (h : registry.motor? place = some motor) : place.slot < slotsPerAxis := by
  obtain ⟨axis, -, hmotor⟩ := Option.bind_eq_some_iff.mp h
  exact Axis.slot_lt_of_motor? hmotor

/-- The registry without its motors. -/
def bare (registry : Registry stage D) : Registry stage D :=
  { registry with axes := registry.axes.map Axis.bare }

/-- Two registries are equal if they agree at each place and without their motors. -/
theorem ext_motor? {a b : Registry stage D} (motors : ∀ place, a.motor? place = b.motor? place)
    (bare : a.bare = b.bare) : a = b := by
  have hbare : a.axes.map Axis.bare = b.axes.map Axis.bare := congrArg axes bare
  have haxes : a.axes = b.axes := by
    refine List.ext_getElem? fun index ↦ ?_
    have hmotors (slot : Nat) := motors ⟨index, slot⟩
    have hindex := congrArg (·[index]?) hbare
    simp only [motor?, axis?] at hmotors
    simp only [List.getElem?_map] at hindex
    cases ha : a.axes[index]? with
    | none => cases hb : b.axes[index]? <;> simp_all
    | some axis =>
      cases hb : b.axes[index]? with
      | none => simp_all
      | some axis' =>
        simp only [ha, hb, Option.bind_some] at hmotors
        simp only [ha, hb, Option.map_some, Option.some_inj] at hindex
        rw [Axis.ext_motor? hmotors hindex]
  have hall : ({ a.bare with axes := a.axes } : Registry stage D) =
      { b.bare with axes := b.axes } := by
    rw [bare, haxes]
  exact hall

@[simp] theorem bare_reach (registry : Registry stage D) (reached : Place → Bool)
    (change : D → D) : (registry.reach reached change).bare = registry.bare := by
  have haxes : (registry.reach reached change).axes.map Axis.bare =
      registry.axes.map Axis.bare := by
    refine List.ext_getElem? fun index ↦ ?_
    rw [List.getElem?_map, List.getElem?_map]
    change (((registry.reach reached change).axis? index).map Axis.bare) = _
    rw [axis?_reach, Option.map_map]
    rfl
  rw [bare, haxes]
  rfl

theorem reach_congr {registry : Registry stage D} {reached reached' : Place → Bool}
    {change : D → D}
    (h : ∀ place motor, registry.motor? place = some motor → reached place = reached' place) :
    registry.reach reached change = registry.reach reached' change := by
  refine ext_motor? (fun place ↦ ?_) (by rw [bare_reach, bare_reach])
  rw [motor?_reach, motor?_reach]
  cases hmotor : registry.motor? place with
  | none => rfl
  | some motor => rw [h place motor hmotor]

theorem reach_of_forall_eq_false {registry : Registry stage D} {reached : Place → Bool}
    {change : D → D}
    (h : ∀ place motor, registry.motor? place = some motor → reached place = false) :
    registry.reach reached change = registry := by
  refine ext_motor? (fun place ↦ ?_) (bare_reach ..)
  rw [motor?_reach]
  cases hmotor : registry.motor? place with
  | none => rfl
  | some motor =>
    rw [h place motor hmotor]
    rfl

/-- Places that are reached one set after the other, with none reached twice. -/
theorem reach_reach (registry : Registry stage D) {first second : Place → Bool} {change : D → D}
    (disjoint : ∀ place, first place = true → second place = false) :
    (registry.reach first change).reach second change =
      registry.reach (fun place ↦ first place || second place) change := by
  have haxes : ((registry.reach first change).reach second change).axes =
      (registry.reach (fun place ↦ first place || second place) change).axes := by
    rw [reach, reach, List.mapIdx_mapIdx]
    exact congrArg (registry.axes.mapIdx ·) (funext fun index ↦ funext fun axis ↦
      axis.reach_reach fun slot ↦ disjoint ⟨index, slot⟩)
  exact congrArg (fun axes ↦ { registry with axes }) haxes

/-- A change of one axis reaches the drivers of that axis which the change reaches. -/
theorem modifyAxis_eq_reach {registry : Registry stage D} {index : Nat} {modify : Axis D → Axis D}
    (reached : Nat → Bool) {change : D → D}
    (h : ∀ axis, registry.axis? index = some axis → modify axis = axis.reach reached change) :
    registry.modifyAxis index modify =
      registry.reach (fun place ↦ place.axis == index && reached place.slot) change := by
  have haxis (other : Nat) : (registry.modifyAxis index modify).axis? other =
      (registry.axis? other).map fun axis ↦
        if other = index then axis.reach reached change else axis := by
    rw [axis?, modifyAxis, List.getElem?_modify]
    change Option.map _ (registry.axis? other) = _
    cases hindex : registry.axis? other with
    | none => rfl
    | some axis =>
      by_cases hother : index = other
      · subst hother
        simp [h axis hindex]
      · simp [hother, Ne.symm hother]
  refine ext_motor? (fun place ↦ ?_) ?_
  · rw [motor?, haxis, motor?_reach, motor?]
    cases registry.axis? place.axis with
    | none => rfl
    | some axis => by_cases hplace : place.axis = index <;> simp [hplace, Axis.motor?_reach]
  · rw [bare_reach]
    have haxes : (registry.modifyAxis index modify).axes.map Axis.bare =
        registry.axes.map Axis.bare := by
      refine List.ext_getElem? fun other ↦ ?_
      rw [List.getElem?_map, List.getElem?_map]
      change ((registry.modifyAxis index modify).axis? other).map Axis.bare =
        (registry.axis? other).map Axis.bare
      rw [haxis]
      cases registry.axis? other with
      | none => rfl
      | some axis => by_cases hother : other = index <;> simp [hother]; rfl
    rw [bare, haxes]
    rfl

/-! ### Places -/

/-- The places of the motors of the axes of a list of indices, as the axes themselves tell. -/
def placesAt (registry : Registry stage D) (indices : List Nat) : List Place :=
  indices.flatMap fun index ↦ (registry.axis? index).elim [] Axis.places

@[simp] theorem placesAt_reach (registry : Registry stage D) (reached : Place → Bool)
    (change : D → D) (indices : List Nat) :
    (registry.reach reached change).placesAt indices = registry.placesAt indices := by
  refine congrArg (indices.flatMap ·) (funext fun index ↦ ?_)
  rw [axis?_reach]
  cases registry.axis? index with
  | none => rfl
  | some axis => exact axis.places_reach ..

/-- All motors, one axis after the other. -/
theorem placesAt_range (registry : Registry stage D) :
    registry.placesAt (List.range registry.axes.length) = registry.places := by
  have hlist (axes : List (Axis D)) :
      ((List.range axes.length).flatMap fun index ↦ axes[index]?.elim [] Axis.places) =
        axes.flatMap Axis.places := by
    induction axes with
    | nil => rfl
    | cons axis axes ih =>
      rw [List.length_cons, List.range_succ_eq_map, List.flatMap_cons, List.flatMap_map,
        List.flatMap_cons, ← ih]
      rfl
  exact hlist registry.axes

/-- The places of the motors of the axes of a list of indices, by position. -/
def mounted (registry : Registry stage D) (indices : List Nat) : List Place :=
  (indices.flatMap Place.ofAxis).filter fun place ↦ (registry.motor? place).isSome

theorem mem_mounted {registry : Registry stage D} {indices : List Nat} {place : Place} :
    place ∈ registry.mounted indices ↔
      place.axis ∈ indices ∧ (registry.motor? place).isSome = true := by
  rw [mounted, List.mem_filter, List.mem_flatMap]
  refine and_congr_left fun hmotor ↦ ⟨?_, fun h ↦ ⟨place.axis, h, ?_⟩⟩
  · rintro ⟨index, hindex, hplace⟩
    exact (Place.mem_ofAxis.mp hplace).1 ▸ hindex
  · obtain ⟨motor, hmotor⟩ := Option.isSome_iff_exists.mp hmotor
    exact Place.mem_ofAxis.mpr ⟨rfl, slot_lt_of_motor? hmotor⟩

/-- The motors of axes in ascending order ascend. -/
theorem pairwise_mounted (registry : Registry stage D) {indices : List Nat}
    (ascending : indices.Pairwise (· < ·)) : (registry.mounted indices).Pairwise Place.Before :=
  (Place.pairwise_flatMap_ofAxis ascending).filter _

theorem nodup_mounted (registry : Registry stage D) {indices : List Nat}
    (ascending : indices.Pairwise (· < ·)) : (registry.mounted indices).Nodup :=
  Place.nodup_of_pairwise (registry.pairwise_mounted ascending)

/-- Every axis stands at its index. -/
def InPlace (registry : Registry stage D) : Prop :=
  ∀ (index : Nat) (axis : Axis D), registry.axis? index = some axis → axis.index = index

/-- Axes that stand at their indices tell the places of their motors right. -/
theorem InPlace.placesAt {registry : Registry stage D} (inPlace : registry.InPlace)
    (indices : List Nat) : registry.placesAt indices = registry.mounted indices := by
  rw [mounted, List.filter_flatMap]
  refine congrArg (indices.flatMap ·) (funext fun index ↦ ?_)
  rw [Place.ofAxis_eq_map, List.filter_map]
  cases hindex : registry.axis? index with
  | none => simp [motor?, hindex, Function.comp_def]
  | some axis =>
    rw [Option.elim_some, Axis.places, Axis.occupied, inPlace index axis hindex]
    simp [motor?, hindex, Function.comp_def]

end Registry

end MotionControl
