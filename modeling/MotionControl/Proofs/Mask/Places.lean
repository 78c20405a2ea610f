import Mathlib.Data.Set.Finite.Basic
import Mathlib.Order.Interval.Set.Defs
import MotionControl.Proofs.Mask.Motor

/-!
# Motor masks as sets of places

A motor mask stands for a set of places (`MotorMask.places`). The places that it has bits for form a
grid of sixteen axes by two slots, and the masks are the sets of places in this grid: each such set
is that of exactly one mask. Adding, removing, union, intersection and complement are what they are
for sets, and the axes of a mask are read off its set (`MotorMask.places_faithful`).

The bit of a place is computed without bound here. On machine words of 64 bits it is the same
number: the range test comes first, so that the sum does not wrap, and the word of one bit is never
shifted by its own width or more (`MotorMask.word?_eq`, `AxisMask.word?_eq`).
-/

set_option autoImplicit false
set_option relaxedAutoImplicit false

namespace MotionControl

/-- The places that a motor mask has bits for. -/
def Place.grid : Set Place := {place | place.axis < 16 ∧ place.slot < 2}

theorem Place.mem_grid {place : Place} : place ∈ grid ↔ place.inRange = true := inRange_iff.symm

theorem Place.finite_grid : grid.Finite := by
  have hmaps : Set.MapsTo bit grid {position | position < 32} :=
    fun _ hplace ↦ bit_lt (mem_grid.mp hplace)
  have hinj : Set.InjOn bit grid :=
    fun _ hplace _ hother ↦ (bit_inj (mem_grid.mp hplace) (mem_grid.mp hother)).mp
  exact .of_injOn hmaps hinj (Set.finite_lt_nat 32)

/-! ### Words of one bit -/

/-- The word with one bit set, at a position that is itself a word. There is none if the position is
beyond the width. -/
def oneBit? (width : Nat) (position : BitVec 64) : Option (BitVec width) :=
  if position.toNat < width then some (BitVec.ofNat width 1 <<< position.toNat) else none

theorem oneBit?_eq {width : Nat} {position : BitVec 64} (h : position.toNat < width) :
    oneBit? width position = some (BitVec.twoPow width position.toNat) := by
  rw [oneBit?, if_pos h, BitVec.twoPow_eq]

/-- The word of one axis, by an index that is itself a word. -/
def AxisMask.word? (axis : BitVec 64) : Option (BitVec 8) :=
  if axis < 8 then oneBit? 8 axis else some 0

theorem AxisMask.word?_eq (axis : BitVec 64) : word? axis = some (singleton axis.toNat).bits := by
  have htest : axis < 8 ↔ axis.toNat < 8 := BitVec.lt_def
  rw [word?, singleton]
  by_cases h : axis.toNat < 8
  · rw [if_pos (htest.mpr h), if_pos h, oneBit?_eq h]
  · rw [if_neg (mt htest.mp h), if_neg h]
    rfl

namespace MotorMask

/-- The word of one place, by an axis and a slot that are themselves words. -/
def word? (axis slot : BitVec 64) : Option (BitVec 32) :=
  if axis < 16 ∧ slot < 2 then oneBit? 32 (axis + 16 * slot) else some 0

/-- The word of a place is that of its mask, for all words. -/
theorem word?_eq (axis slot : BitVec 64) :
    word? axis slot = some (singleton ⟨axis.toNat, slot.toNat⟩).bits := by
  have htest : axis < 16 ∧ slot < 2 ↔ (⟨axis.toNat, slot.toNat⟩ : Place).inRange = true :=
    (and_congr BitVec.lt_def BitVec.lt_def).trans
      (@Place.inRange_iff ⟨axis.toNat, slot.toNat⟩).symm
  rw [word?, singleton]
  by_cases h : (⟨axis.toNat, slot.toNat⟩ : Place).inRange = true
  · have hbit := Place.bit_lt h
    have hposition : (axis + 16 * slot).toNat = (⟨axis.toNat, slot.toNat⟩ : Place).bit := by
      rw [BitVec.toNat_add, BitVec.toNat_mul]
      simp only [Place.bit, motorRange] at hbit ⊢
      change (axis.toNat + 16 * slot.toNat % 2 ^ 64) % 2 ^ 64 = _
      omega
    rw [if_pos (htest.mpr h), if_pos h, oneBit?_eq (hposition ▸ hbit), hposition]
  · rw [if_neg (mt htest.mp h), if_neg h]
    rfl

/-- A place is in a mask if the mask has a bit in common with the mask of the place. -/
theorem contains_iff_and_singleton (mask : MotorMask) (place : Place) :
    mask.contains place = true ↔ mask.bits &&& (singleton place).bits ≠ 0 := by
  rw [contains, singleton]
  split
  next h =>
    have hne : BitVec.twoPow 32 place.bit ≠ 0 := fun hzero ↦ by
      simpa [Place.bit_lt h] using congrArg (BitVec.getLsbD · place.bit) hzero
    rw [h, Bool.true_and, BitVec.and_twoPow]
    cases mask.bits.getLsbD place.bit with
    | false => simp
    | true => simpa using hne
  next h => simp [h, empty]

/-! ### Sets of places -/

/-- The places in a mask. -/
def places (mask : MotorMask) : Set Place := {place | mask.contains place = true}

theorem mem_places {mask : MotorMask} {place : Place} :
    place ∈ mask.places ↔ mask.contains place = true := Iff.rfl

theorem places_subset_grid (mask : MotorMask) : mask.places ⊆ Place.grid :=
  fun _ hplace ↦ Place.mem_grid.mpr (Bool.and_eq_true_iff.mp hplace).1

theorem places_injective : Function.Injective places := fun _ _ h ↦
  ext_contains fun place ↦ Bool.eq_iff_iff.mpr (Set.ext_iff.mp h place)

@[simp] theorem places_empty : empty.places = ∅ := by
  ext place
  simp [mem_places]

@[simp] theorem places_insert (mask : MotorMask) (place : Place) :
    (mask.insert place).places = mask.places ∪ ({place} ∩ Place.grid) := by
  ext other
  by_cases heq : other = place
  · simp [mem_places, contains_insert, Place.mem_grid, heq]
  · simp [mem_places, contains_insert, heq, Ne.symm heq]

@[simp] theorem places_erase (mask : MotorMask) (place : Place) :
    (mask.erase place).places = mask.places \ {place} := by
  ext other
  simp [mem_places, contains_erase, eq_comm (a := place)]

@[simp] theorem places_union (a b : MotorMask) : (a.union b).places = a.places ∪ b.places := by
  ext place
  simp [mem_places, contains_union]

@[simp] theorem places_inter (a b : MotorMask) : (a.inter b).places = a.places ∩ b.places := by
  ext place
  simp [mem_places, contains_inter]

@[simp] theorem places_compl (mask : MotorMask) : mask.compl.places = Place.grid \ mask.places := by
  ext place
  simp [mem_places, contains_compl, Place.mem_grid]

@[simp] theorem places_diff (a b : MotorMask) : (a.diff b).places = a.places \ b.places := by
  ext place
  simp [mem_places, contains_diff]

/-- Every set of places in the grid is that of a mask, which gathers it place by place. -/
theorem exists_places_eq {set : Set Place} (h : set ⊆ Place.grid) :
    ∃ mask : MotorMask, mask.places = set := by
  induction set, Place.finite_grid.subset h using Set.Finite.induction_on with
  | empty => exact ⟨empty, places_empty⟩
  | @insert place rest _ _ ih =>
    obtain ⟨hplace, hrest⟩ := Set.insert_subset_iff.mp h
    obtain ⟨mask, rfl⟩ := ih hrest
    refine ⟨mask.insert place, ?_⟩
    rw [places_insert, Set.inter_eq_left.mpr (Set.singleton_subset_iff.mpr hplace),
      Set.union_singleton]

theorem isEmpty_iff (mask : MotorMask) : mask.isEmpty = true ↔ mask.places = ∅ := by
  rw [← places_empty, places_injective.eq_iff, isEmpty, beq_iff_eq]
  exact ⟨fun h ↦ congrArg mk h, fun h ↦ congrArg bits h⟩

theorem singleton_injOn : Set.InjOn singleton Place.grid := by
  intro place hplace other hother heq
  have hmem : (singleton place).contains other = true := by
    rw [heq, contains_singleton, Place.mem_grid.mp hother, decide_eq_true rfl, Bool.true_and]
  rw [contains_singleton, Place.mem_grid.mp hplace, Bool.true_and] at hmem
  exact of_decide_eq_true hmem

/-- The masks are the sets of places in the grid, and their operations those of sets. Each place in
the grid has a bit of its own, which is computed on machine words without wrapping and without a
shift beyond the width. -/
theorem places_faithful :
    Set.BijOn places Set.univ (𝒫 Place.grid) ∧
    (∀ mask : MotorMask, mask.isEmpty = true ↔ mask.places = ∅) ∧
    -- Single places
    (∀ place ∈ Place.grid, place.bit < 32 ∧ (singleton place).bits = BitVec.twoPow 32 place.bit) ∧
    Set.InjOn singleton Place.grid ∧
    (∀ place ∉ Place.grid, singleton place = empty) ∧
    -- Operations on sets
    (∀ (mask : MotorMask) (place : Place),
      (mask.insert place).places = mask.places ∪ ({place} ∩ Place.grid) ∧
      (mask.erase place).places = mask.places \ {place}) ∧
    (∀ a b : MotorMask,
      (a.union b).places = a.places ∪ b.places ∧
      (a.inter b).places = a.places ∩ b.places ∧
      a.compl.places = Place.grid \ a.places) ∧
    -- Axes
    (∀ (mask : MotorMask) (axis : Nat),
      (mask.primaryAxes.contains axis = true ↔ axis < 8 ∧ ⟨axis, 0⟩ ∈ mask.places) ∧
      (mask.secondaryAxes.contains axis = true ↔ axis < 8 ∧ ⟨axis, 1⟩ ∈ mask.places) ∧
      (mask.axes.contains axis = true ↔
        axis < 8 ∧ (⟨axis, 0⟩ ∈ mask.places ∨ ⟨axis, 1⟩ ∈ mask.places))) ∧
    -- Machine words
    (∀ axis slot : BitVec 64,
      AxisMask.word? axis = some (AxisMask.singleton axis.toNat).bits ∧
      ∃ word, word? axis slot = some word ∧ word = (singleton ⟨axis.toNat, slot.toNat⟩).bits ∧
        ∀ mask : MotorMask, ⟨axis.toNat, slot.toNat⟩ ∈ mask.places ↔ mask.bits &&& word ≠ 0) := by
  refine ⟨⟨fun mask _ ↦ places_subset_grid mask, places_injective.injOn, fun set hset ↦ ?_⟩,
    isEmpty_iff, fun place hplace ↦ ?_, singleton_injOn, fun place hplace ↦ ?_,
    fun mask place ↦ ⟨places_insert mask place, places_erase mask place⟩,
    fun a b ↦ ⟨places_union a b, places_inter a b, places_compl a⟩, fun mask axis ↦ ?_,
    fun axis slot ↦ ⟨AxisMask.word?_eq axis, _, word?_eq axis slot, rfl, fun mask ↦ ?_⟩⟩
  · obtain ⟨mask, hmask⟩ := exists_places_eq hset
    exact ⟨mask, Set.mem_univ mask, hmask⟩
  · have hrange := Place.mem_grid.mp hplace
    exact ⟨Place.bit_lt hrange, by rw [singleton, if_pos hrange]⟩
  · rw [singleton, if_neg (mt Place.mem_grid.mpr hplace)]
  · rw [contains_primaryAxes, contains_secondaryAxes, contains_axes]
    simp [mem_places]
  · exact contains_iff_and_singleton mask ⟨axis.toNat, slot.toNat⟩

/-- The last place of the grid has the highest bit. An axis beyond the grid has none, and an index
that would wrap on machine words reaches no bit of another motor. -/
theorem places_faithful_lastPlace :
    (⟨15, 1⟩ : Place) ∈ Place.grid ∧ (singleton ⟨15, 1⟩).bits = BitVec.twoPow 32 31 ∧
      (⟨16, 0⟩ : Place) ∉ Place.grid ∧ singleton ⟨16, 0⟩ = empty ∧
      ∃ word, word? 1 (BitVec.twoPow 64 60) = some word ∧ word = 0 := by
  have hlast : (⟨15, 1⟩ : Place) ∈ Place.grid := ⟨by decide, by decide⟩
  have hbeyond : (⟨16, 0⟩ : Place) ∉ Place.grid := fun h ↦ Nat.lt_irrefl 16 h.1
  obtain ⟨-, -, hplace, -, hnone, -, -, -, hword⟩ := places_faithful
  obtain ⟨-, word, hword, rfl, -⟩ := hword 1 (BitVec.twoPow 64 60)
  exact ⟨hlast, (hplace _ hlast).2, hbeyond, hnone _ hbeyond, _, hword, by decide⟩

end MotorMask

end MotionControl
