import MotionControl.Mask.Motor
import MotionControl.Proofs.Mask.Axis

/-!
# Membership in motor masks

A motor mask holds each place that is in range by a bit of its own, so adding and removing a place
changes the membership of that place and of no other. Places out of range have no bit, and adding or
removing them changes nothing. Every bit is that of a place, so two masks with the same members are
one (`MotorMask.ext_contains`).
-/

set_option autoImplicit false
set_option relaxedAutoImplicit false

namespace MotionControl

namespace Place

theorem inRange_iff {place : Place} :
    place.inRange = true ↔ place.axis < motorRange ∧ place.slot < slotsPerAxis := by
  simp [inRange]

theorem bit_lt {place : Place} (h : place.inRange = true) : place.bit < 32 := by
  obtain ⟨haxis, hslot⟩ := inRange_iff.mp h
  unfold bit
  unfold motorRange at *
  unfold slotsPerAxis at hslot
  omega

/-- Places in range have different bits. -/
theorem bit_inj {place other : Place} (h : place.inRange = true) (hother : other.inRange = true) :
    place.bit = other.bit ↔ place = other := by
  refine ⟨fun hbit ↦ ?_, fun heq ↦ heq ▸ rfl⟩
  obtain ⟨haxis, hslot⟩ := inRange_iff.mp h
  obtain ⟨haxis', hslot'⟩ := inRange_iff.mp hother
  obtain ⟨axis, slot⟩ := place
  obtain ⟨axis', slot'⟩ := other
  simp only [bit, motorRange] at *
  have hboth : axis = axis' ∧ slot = slot' := by omega
  rw [hboth.1, hboth.2]

/-- Every bit of a mask is that of a place in range. -/
theorem exists_bit_eq {bit : Nat} (h : bit < 32) :
    ∃ place : Place, place.inRange = true ∧ place.bit = bit := by
  refine ⟨⟨bit % motorRange, bit / motorRange⟩, inRange_iff.mpr ⟨?_, ?_⟩, ?_⟩
  · exact Nat.mod_lt bit (by decide)
  · exact Nat.div_lt_of_lt_mul h
  · exact Nat.mod_add_div bit motorRange

end Place

namespace MotorMask

/-- The bit of a place is the only one in the mask of that place. -/
theorem getLsbD_singleton (place : Place) (bit : Nat) :
    (singleton place).bits.getLsbD bit = (place.inRange && decide (place.bit = bit)) := by
  unfold singleton
  split
  next h =>
    rw [BitVec.getLsbD_twoPow, h, decide_eq_true (Place.bit_lt h)]
  next h =>
    rw [Bool.not_eq_true] at h
    rw [h]
    exact BitVec.getLsbD_zero

theorem getLsbD_insert (mask : MotorMask) (place : Place) (bit : Nat) :
    (mask.insert place).bits.getLsbD bit =
      (mask.bits.getLsbD bit || place.inRange && decide (place.bit = bit)) := by
  rw [← getLsbD_singleton]
  exact BitVec.getLsbD_or

theorem getLsbD_erase (mask : MotorMask) (place : Place) (bit : Nat) :
    (mask.erase place).bits.getLsbD bit =
      (mask.bits.getLsbD bit && !(place.inRange && decide (place.bit = bit))) := by
  rw [← getLsbD_singleton, erase, diff, inter, compl, BitVec.getLsbD_and, BitVec.getLsbD_not]
  by_cases hbit : bit < 32
  · simp [hbit]
  · simp [BitVec.getLsbD_of_ge mask.bits bit (Nat.le_of_not_lt hbit)]

@[simp] theorem contains_empty (place : Place) : empty.contains place = false := by
  simp [contains, empty]

theorem contains_insert (mask : MotorMask) (place other : Place) :
    (mask.insert place).contains other =
      (mask.contains other || place.inRange && decide (place = other)) := by
  rw [contains, contains, getLsbD_insert]
  cases hother : other.inRange with
  | false =>
    have hne : (place.inRange && decide (place = other)) = false := by
      by_cases heq : place = other
      · rw [heq, hother, Bool.false_and]
      · rw [decide_eq_false heq, Bool.and_false]
    simp [hne]
  | true =>
    cases hplace : place.inRange with
    | false => simp
    | true => simp [Place.bit_inj hplace hother]

theorem contains_erase (mask : MotorMask) (place other : Place) :
    (mask.erase place).contains other = (mask.contains other && !decide (place = other)) := by
  rw [contains, contains, getLsbD_erase]
  cases hother : other.inRange with
  | false => simp
  | true =>
    by_cases heq : place = other
    · simp [heq, hother]
    · cases hplace : place.inRange with
      | false => simp [heq]
      | true => simp [heq, Place.bit_inj hplace hother]

theorem contains_singleton (place other : Place) :
    (singleton place).contains other = (place.inRange && decide (place = other)) := by
  have hadded : empty.insert place = singleton place := by simp [insert, union, empty]
  rw [← hadded, contains_insert, contains_empty, Bool.false_or]

theorem contains_union (a b : MotorMask) (place : Place) :
    (a.union b).contains place = (a.contains place || b.contains place) := by
  rw [union, contains, contains, contains, BitVec.getLsbD_or, Bool.and_or_distrib_left]

theorem contains_inter (a b : MotorMask) (place : Place) :
    (a.inter b).contains place = (a.contains place && b.contains place) := by
  rw [inter, contains, contains, contains, BitVec.getLsbD_and]
  cases place.inRange <;> rfl

theorem contains_compl (mask : MotorMask) (place : Place) :
    mask.compl.contains place = (place.inRange && !mask.contains place) := by
  rw [compl, contains, contains, BitVec.getLsbD_not]
  cases h : place.inRange with
  | false => rfl
  | true => simp [Place.bit_lt h]

theorem contains_diff (a b : MotorMask) (place : Place) :
    (a.diff b).contains place = (a.contains place && !b.contains place) := by
  rw [diff, contains_inter, contains_compl, contains]
  cases place.inRange <;> simp

/-- Two masks with the same members are one. -/
theorem ext_contains {a b : MotorMask} (h : ∀ place, a.contains place = b.contains place) :
    a = b := by
  have hbits : a.bits = b.bits := by
    refine BitVec.eq_of_getLsbD_eq fun bit hbit ↦ ?_
    obtain ⟨place, hrange, rfl⟩ := Place.exists_bit_eq hbit
    simpa [contains, hrange] using h place
  cases a
  cases b
  exact congrArg mk hbits

/-! ### The axes of a set of motors -/

theorem contains_primaryAxes (mask : MotorMask) (axis : Nat) :
    mask.primaryAxes.contains axis = (decide (axis < 8) && mask.contains ⟨axis, 0⟩) := by
  by_cases h : axis < 8
  · have hrange : (⟨axis, 0⟩ : Place).inRange = true :=
      Place.inRange_iff.mpr ⟨Nat.lt_trans h (by decide), Nat.zero_lt_two⟩
    simp [primaryAxes, AxisMask.contains, contains, hrange, Place.bit, h]
  · simp [AxisMask.contains, h]

theorem contains_secondaryAxes (mask : MotorMask) (axis : Nat) :
    mask.secondaryAxes.contains axis = (decide (axis < 8) && mask.contains ⟨axis, 1⟩) := by
  by_cases h : axis < 8
  · have hrange : (⟨axis, 1⟩ : Place).inRange = true :=
      Place.inRange_iff.mpr ⟨Nat.lt_trans h (by decide), Nat.one_lt_two⟩
    simp [secondaryAxes, AxisMask.contains, contains, hrange, Place.bit, h, Nat.add_comm]
  · simp [AxisMask.contains, h]

theorem contains_axes (mask : MotorMask) (axis : Nat) :
    mask.axes.contains axis =
      (decide (axis < 8) && (mask.contains ⟨axis, 0⟩ || mask.contains ⟨axis, 1⟩)) := by
  rw [axes, AxisMask.contains_union, contains_primaryAxes, contains_secondaryAxes,
    Bool.and_or_distrib_left]

/-! ### Adding and removing many places -/

theorem contains_foldl_insert (places : List Place) (mask : MotorMask) (other : Place) :
    (places.foldl insert mask).contains other =
      (mask.contains other || other.inRange && places.contains other) := by
  induction places generalizing mask with
  | nil => simp
  | cons place places ih =>
    rw [List.foldl_cons, ih, contains_insert, List.contains_cons]
    by_cases heq : place = other
    · subst heq
      cases mask.contains place <;> cases place.inRange <;> simp
    · have hne : (other == place) = false := beq_false_of_ne (Ne.symm heq)
      simp [heq, hne]

theorem getLsbD_foldl_erase (places : List Place) (mask : MotorMask) (bit : Nat) :
    (places.foldl erase mask).bits.getLsbD bit =
      (mask.bits.getLsbD bit &&
        !places.any fun place ↦ place.inRange && decide (place.bit = bit)) := by
  induction places generalizing mask with
  | nil => simp
  | cons place places ih =>
    rw [List.foldl_cons, ih, getLsbD_erase, List.any_cons, Bool.not_or, Bool.and_assoc]

end MotorMask

end MotionControl
