import MotionControl.Proofs.Mask.Motor
import MotionControl.Proofs.Registry.Reach
import MotionControl.Registry.Homing

/-!
# The homing protocol

Putting axes into homing mode or out of it commands every motor of these axes once, in the order of
axes and slots, each with its steps released already. The steps of all places of these axes are
released and no others, and the motors reported are those that answered that they take part in
homing (`Registry.HomingProtocol`). This holds of every registry, mask, suppression and driver.

No place is visited twice, so a visit finds each driver as it was before all visits
(`Registry.visitPlaces_eq`). What the visits come to altogether is one equation
(`Registry.setHoming_eq`), and the protocol is read off it.
-/

set_option autoImplicit false
set_option relaxedAutoImplicit false

namespace MotionControl.Registry

variable {D : Type}

/-! ### The places of a mask -/

theorem lt_motorRange_of_contains {mask : AxisMask} {index : Nat}
    (h : mask.contains index = true) : index < motorRange := by
  simp only [AxisMask.contains, Bool.and_eq_true, decide_eq_true_eq] at h
  exact Nat.lt_trans h.1 (by decide)

/-- The axes of a registry that are in a mask, ascending. -/
def homingAxes (registry : Registry .ready D) (mask : AxisMask) : List Nat :=
  (List.range registry.axes.length).filter mask.contains

theorem mem_homingAxes {registry : Registry .ready D} {mask : AxisMask} {index : Nat} :
    index ∈ registry.homingAxes mask ↔
      index < registry.axes.length ∧ mask.contains index = true := by
  rw [homingAxes, List.mem_filter, List.mem_range]

theorem pairwise_homingAxes (registry : Registry .ready D) (mask : AxisMask) :
    (registry.homingAxes mask).Pairwise (· < ·) :=
  List.pairwise_lt_range.filter _

theorem mem_placesOf {registry : Registry .ready D} {mask : AxisMask} {place : Place} :
    place ∈ registry.placesOf mask ↔ place.axis < registry.axes.length ∧
      mask.contains place.axis = true ∧ place.slot < slotsPerAxis := by
  change place ∈ (registry.homingAxes mask).flatMap Place.ofAxis ↔ _
  simp only [List.mem_flatMap, mem_homingAxes, Place.mem_ofAxis]
  constructor
  · rintro ⟨index, ⟨hindex, hmask⟩, rfl, hslot⟩
    exact ⟨hindex, hmask, hslot⟩
  · rintro ⟨hindex, hmask, hslot⟩
    exact ⟨place.axis, ⟨hindex, hmask⟩, rfl, hslot⟩

theorem nodup_placesOf (registry : Registry .ready D) (mask : AxisMask) :
    (registry.placesOf mask).Nodup :=
  Place.nodup_of_pairwise (Place.pairwise_flatMap_ofAxis (registry.pairwise_homingAxes mask))

/-- The steps that are released are those of the places of the mask. -/
theorem getLsbD_foldl_unblock (registry : Registry .ready D) (mask : AxisMask)
    (suppression : Suppression) (bit : Nat) :
    ((registry.placesOf mask).foldl Suppression.unblock suppression).motors.bits.getLsbD bit =
      (suppression.motors.bits.getLsbD bit && !decide (∃ index < registry.axes.length,
        mask.contains index = true ∧ (bit = index ∨ bit = 16 + index))) := by
  have hmotors (places : List Place) :
      (places.foldl Suppression.unblock suppression).motors =
        places.foldl MotorMask.erase suppression.motors :=
    (List.foldl_hom Suppression.motors fun _ _ ↦ rfl).symm
  have hbits : ((registry.placesOf mask).any fun place ↦
        place.inRange && decide (place.bit = bit)) =
      decide (∃ index < registry.axes.length,
        mask.contains index = true ∧ (bit = index ∨ bit = 16 + index)) := by
    rw [Bool.eq_iff_iff, List.any_eq_true, decide_eq_true_iff]
    simp only [mem_placesOf, Bool.and_eq_true, Place.inRange_iff, decide_eq_true_eq]
    constructor
    · rintro ⟨place, ⟨haxis, hmask, hslot⟩, -, rfl⟩
      refine ⟨place.axis, haxis, hmask, ?_⟩
      unfold Place.bit motorRange
      unfold slotsPerAxis at hslot
      omega
    · rintro ⟨index, hindex, hmask, hbit⟩
      have hrange := lt_motorRange_of_contains hmask
      have hfirst : 0 < slotsPerAxis := by decide
      have hsecond : 1 < slotsPerAxis := by decide
      rcases hbit with rfl | rfl
      · exact ⟨⟨bit, 0⟩, ⟨hindex, hmask, hfirst⟩, ⟨hrange, hfirst⟩, rfl⟩
      · exact ⟨⟨index, 1⟩, ⟨hindex, hmask, hsecond⟩, ⟨hrange, hsecond⟩, Nat.add_comm ..⟩
  rw [hmotors, MotorMask.getLsbD_foldl_erase, hbits]

variable [MotorDriver D]

/-! ### One visit -/

/-- What a driver is after it was commanded to enter or leave homing mode. -/
def homed (on : Bool) (driver : D) : D := (MotorDriver.setHoming on driver).2

/-- Whether the driver at a place answers that its motor takes part in homing. -/
def takesPart (registry : Registry .ready D) (on : Bool) (place : Place) : Bool :=
  (registry.motor? place).any fun motor ↦ (MotorDriver.setHoming on motor.driver).1

/-- The commands of homing mode to the drivers of some places, with no steps suppressed. -/
def homingEvents (on : Bool) (places : List Place) : List MachineEvent :=
  places.map (MachineEvent.driver · (.setHoming on false))

theorem setHomingAt_state (registry : Registry .ready D) (place : Place) (on : Bool)
    (suppression : Suppression) :
    (registry.setHomingAt place on suppression).state =
      registry.reach (· == place) (homed on) := by
  unfold setHomingAt
  split
  next hnone =>
    refine (reach_of_forall_eq_false fun other motor hmotor ↦ beq_false_of_ne fun hother ↦ ?_).symm
    rw [hother] at hmotor
    exact Option.some_ne_none motor (hmotor.symm.trans hnone)
  next motor hmotor =>
    obtain ⟨axis, haxis, hslot⟩ := Option.bind_eq_some_iff.mp hmotor
    have hmodify : registry.modifyAxis place.axis
          (Axis.setDriver · place.slot (homed on motor.driver)) =
        registry.reach (fun other ↦ other.axis == place.axis && other.slot == place.slot)
          (homed on) := by
      refine modifyAxis_eq_reach (· == place.slot) fun other hother ↦ ?_
      obtain rfl := Option.some_inj.mp (hother.symm.trans haxis)
      exact Axis.setDriver_eq_reach hslot (homed on)
    refine hmodify.trans (reach_congr fun other _ _ ↦ ?_)
    obtain ⟨axis, slot⟩ := other
    obtain ⟨axis', slot'⟩ := place
    rw [Bool.eq_iff_iff]
    simp

theorem setHomingAt_answer (registry : Registry .ready D) (place : Place) (on : Bool)
    (suppression : Suppression) :
    (registry.setHomingAt place on suppression).answer = some true ↔
      registry.takesPart on place = true := by
  unfold setHomingAt takesPart
  cases registry.motor? place <;> simp [Outcome.still]

theorem setHomingAt_events (registry : Registry .ready D) (place : Place) (on : Bool)
    {suppression : Suppression} (released : suppression.isBlocked place = false) :
    (registry.setHomingAt place on suppression).events =
      homingEvents on ([place].filter fun place ↦ (registry.motor? place).isSome) := by
  unfold setHomingAt
  cases h : registry.motor? place <;> simp [Outcome.still, homingEvents, h, released]

theorem isBlocked_unblock (suppression : Suppression) (place : Place) :
    (suppression.unblock place).isBlocked place = false := by
  simp [Suppression.isBlocked, Suppression.unblock, MotorMask.contains_erase]

/-! ### All visits -/

/-- A visit elsewhere leaves a driver as it was, and with it what the driver answers. -/
theorem motor?_reach_of_ne (registry : Registry .ready D) (on : Bool) {place other : Place}
    (h : other ≠ place) :
    (registry.reach (· == place) (homed on)).motor? other = registry.motor? other := by
  rw [motor?_reach, beq_false_of_ne h]
  exact Option.map_id'

theorem visitPlaces_eq (on : Bool) {places : List Place} (nodup : places.Nodup)
    (registry : Registry .ready D) (suppression : Suppression) (active : MotorMask) :
    visitPlaces on places registry suppression active =
      { answer := (places.filter (registry.takesPart on)).foldl MotorMask.insert active
        state := (registry.reach places.contains (homed on),
          places.foldl Suppression.unblock suppression)
        events :=
          homingEvents on (places.filter fun place ↦ (registry.motor? place).isSome) } := by
  induction places generalizing registry suppression active with
  | nil => simp [visitPlaces, Outcome.still, homingEvents, reach_of_forall_eq_false]
  | cons place places ih =>
    obtain ⟨hnotMem, hnodup⟩ := List.nodup_cons.mp nodup
    have hother : ∀ other ∈ places,
        (registry.reach (· == place) (homed on)).motor? other = registry.motor? other :=
      fun other hmem ↦ registry.motor?_reach_of_ne on fun heq ↦ hnotMem (heq ▸ hmem)
    have htakesPart : places.filter ((registry.reach (· == place) (homed on)).takesPart on) =
        places.filter (registry.takesPart on) :=
      List.filter_congr fun other hmem ↦ by rw [takesPart, takesPart, hother other hmem]
    have hsome : (places.filter fun other ↦
          ((registry.reach (· == place) (homed on)).motor? other).isSome) =
        places.filter fun other ↦ (registry.motor? other).isSome :=
      List.filter_congr fun other hmem ↦ by rw [hother other hmem]
    have hdisjoint : ∀ other : Place, (other == place) = true → places.contains other = false := by
      intro other heq
      rw [eq_of_beq heq]
      simpa using hnotMem
    have hevents := setHomingAt_events registry place on (isBlocked_unblock suppression place)
    have hstep : homingEvents on ((place :: places).filter fun other ↦
          (registry.motor? other).isSome) =
        homingEvents on ([place].filter fun other ↦ (registry.motor? other).isSome) ++
          homingEvents on (places.filter fun other ↦ (registry.motor? other).isSome) := by
      rw [homingEvents, ← List.singleton_append, List.filter_append, List.map_append]
      rfl
    have hactive :
        ((place :: places).filter (registry.takesPart on)).foldl MotorMask.insert active =
          (places.filter (registry.takesPart on)).foldl MotorMask.insert
            (if (registry.setHomingAt place on (suppression.unblock place)).answer = some true then
              active.insert place else active) := by
      simp only [setHomingAt_answer, List.filter_cons]
      split <;> rfl
    rw [visitPlaces, setHomingAt_state, hevents, ih hnodup, htakesPart, hsome,
      reach_reach _ hdisjoint, hstep, hactive]
    rfl

/-- Homing mode visits the places of the mask. -/
theorem setHoming_eq (registry : Registry .ready D) (mask : AxisMask) (on : Bool)
    (suppression : Suppression) :
    registry.setHoming mask on suppression =
      { answer := ((registry.placesOf mask).filter (registry.takesPart on)).foldl
          MotorMask.insert .empty
        state := (registry.reach (fun place ↦
            decide (place.axis < registry.axes.length) && mask.contains place.axis) (homed on),
          (registry.placesOf mask).foldl Suppression.unblock suppression)
        events := homingEvents on (registry.mounted (registry.homingAxes mask)) ++
          [.log (.homingMode on mask (((registry.placesOf mask).filter
            (registry.takesPart on)).foldl MotorMask.insert .empty))] } := by
  have hreached : registry.reach (registry.placesOf mask).contains (homed on) =
      registry.reach (fun place ↦
        decide (place.axis < registry.axes.length) && mask.contains place.axis) (homed on) := by
    refine reach_congr fun place motor hmotor ↦ ?_
    rw [Bool.eq_iff_iff, List.contains_iff_mem, mem_placesOf, Bool.and_eq_true, decide_eq_true_eq]
    exact and_congr_right fun _ ↦ and_iff_left (slot_lt_of_motor? hmotor)
  rw [setHoming, visitPlaces_eq on (registry.nodup_placesOf mask), hreached]
  rfl

/-! ### The protocol -/

/-- What an operation of homing mode came to for the axes of a mask. -/
structure HomingProtocol (registry : Registry .ready D) (mask : AxisMask) (on : Bool)
    (suppression : Suppression)
    (outcome : Outcome (Registry .ready D × Suppression) MachineEvent MotorMask) : Prop where
  /-- Every motor of these axes was commanded once, in ascending order, its steps released, and no
  other motor. -/
  commanded : ∃ places : List Place,
    outcome.events = homingEvents on places ++ [.log (.homingMode on mask outcome.answer)] ∧
      places.Pairwise Place.Before ∧
      ∀ place, place ∈ places ↔ place.axis < registry.axes.length ∧
        mask.contains place.axis = true ∧ (registry.motor? place).isSome = true
  /-- The steps of both places of each of these axes are released, and those of no other place. -/
  released : ∀ bit, outcome.state.2.motors.bits.getLsbD bit =
    (suppression.motors.bits.getLsbD bit && !decide (∃ index < registry.axes.length,
      mask.contains index = true ∧ (bit = index ∨ bit = 16 + index)))
  /-- The motors reported are those whose drivers answered that they take part. -/
  active : ∀ place, outcome.answer.contains place = true ↔
    place.axis < registry.axes.length ∧ mask.contains place.axis = true ∧
      ∃ motor, registry.motor? place = some motor ∧
        (MotorDriver.setHoming on motor.driver).1 = true
  /-- Each driver of these axes is as its command left it, and every other driver as before. -/
  drivers : outcome.state.1 = registry.reach
    (fun place ↦ decide (place.axis < registry.axes.length) && mask.contains place.axis) (homed on)

/-- Entering and leaving homing mode keep to the protocol, whatever the drivers answer. -/
theorem setHoming_protocol (registry : Registry .ready D) (mask : AxisMask) (on : Bool)
    (suppression : Suppression) :
    HomingProtocol registry mask on suppression (registry.setHoming mask on suppression) := by
  rw [setHoming_eq]
  refine
    { commanded :=
        ⟨_, rfl, registry.pairwise_mounted (registry.pairwise_homingAxes mask), fun place ↦ by
          rw [mem_mounted, mem_homingAxes, and_assoc]⟩
      released := registry.getLsbD_foldl_unblock mask suppression
      active := fun place ↦ ?_
      drivers := rfl }
  rw [MotorMask.contains_foldl_insert, MotorMask.contains_empty, Bool.false_or, Bool.and_eq_true,
    List.contains_iff_mem, List.mem_filter, mem_placesOf, takesPart, Option.any_eq_true]
  constructor
  · rintro ⟨-, ⟨haxis, hmask, -⟩, hanswer⟩
    exact ⟨haxis, hmask, hanswer⟩
  · rintro ⟨haxis, hmask, motor, hmotor, htrue⟩
    have hrange := lt_motorRange_of_contains hmask
    have hslot := slot_lt_of_motor? hmotor
    exact ⟨Place.inRange_iff.mpr ⟨hrange, hslot⟩, ⟨haxis, hmask, hslot⟩, motor, hmotor, htrue⟩

end MotionControl.Registry
