import MotionControl.Mask.Axis

/-!
# Axis masks as sets of indices

An axis mask holds each index below its width by a bit of its own, so adding an index changes the
membership of that index and of no other; an index beyond the width is never a member. A mask that
is gathered from a list, entry by entry, therefore holds the indices of the entries that are chosen
(`AxisMask.contains_foldl_insert`). Two masks with the same members are one
(`AxisMask.ext_contains`).
-/

set_option autoImplicit false
set_option relaxedAutoImplicit false

namespace MotionControl.AxisMask

@[simp] theorem contains_empty (axis : Nat) : empty.contains axis = false := by
  simp [contains, empty]

/-- The members of a mask are the bits that are set. -/
theorem contains_eq_getLsbD (mask : AxisMask) (axis : Nat) :
    mask.contains axis = mask.bits.getLsbD axis := by
  rw [contains]
  by_cases h : axis < 8
  · rw [decide_eq_true h, Bool.true_and]
  · rw [decide_eq_false h, Bool.false_and, BitVec.getLsbD_of_ge _ _ (Nat.le_of_not_lt h)]

/-- The bit of an index is the only one in the mask of that index. -/
theorem contains_singleton (axis other : Nat) :
    (singleton axis).contains other = (decide (other < 8) && axis == other) := by
  unfold singleton
  split
  next h =>
    rw [contains, BitVec.getLsbD_twoPow, decide_eq_true h, Bool.true_and]
    rfl
  next h =>
    rw [contains_empty]
    by_cases heq : axis = other
    · simp [← heq, h]
    · simp [heq]

theorem contains_union (a b : AxisMask) (axis : Nat) :
    (a.union b).contains axis = (a.contains axis || b.contains axis) := by
  rw [union, contains, contains, contains, BitVec.getLsbD_or, Bool.and_or_distrib_left]

theorem contains_insert (mask : AxisMask) (axis other : Nat) :
    (mask.insert axis).contains other =
      (mask.contains other || decide (other < 8) && axis == other) := by
  rw [insert, contains_union, contains_singleton]

theorem contains_inter (a b : AxisMask) (axis : Nat) :
    (a.inter b).contains axis = (a.contains axis && b.contains axis) := by
  simp only [inter, contains, BitVec.getLsbD_and]
  cases decide (axis < 8) <;> simp

theorem contains_below (count axis : Nat) :
    (below count).contains axis = (decide (axis < 8) && decide (axis < count)) := by
  simp only [below, contains, BitVec.getLsbD_ushiftRight, BitVec.getLsbD_allOnes]
  by_cases h : axis < 8
  · simp only [h, decide_true, Bool.true_and, decide_eq_decide]
    omega
  · simp [h]

/-- Two masks with the same members are one. -/
theorem ext_contains {a b : AxisMask}
    (h : ∀ axis, a.contains axis = true ↔ b.contains axis = true) : a = b := by
  have hbits : a.bits = b.bits := by
    refine BitVec.eq_of_getLsbD_eq fun axis haxis ↦ Bool.eq_iff_iff.mpr ?_
    simpa [contains, haxis] using h axis
  cases a
  cases b
  exact congrArg mk hbits

/-- A mask that is gathered entry by entry holds the indices of the chosen entries. -/
theorem contains_foldl_insert {α : Type} (chosen : α → Bool) (index : α → Nat) (entries : List α)
    (mask : AxisMask) (axis : Nat) :
    (entries.foldl (fun mask entry ↦ if chosen entry then mask.insert (index entry) else mask)
        mask).contains axis = true ↔
      mask.contains axis = true ∨
        axis < 8 ∧ ∃ entry ∈ entries, chosen entry = true ∧ index entry = axis := by
  induction entries generalizing mask with
  | nil => simp
  | cons entry entries ih =>
    rw [List.foldl_cons, ih]
    cases hchosen : chosen entry with
    | true => simp [hchosen, contains_insert, and_or_left, or_assoc]
    | false => simp [hchosen]

end MotionControl.AxisMask
