import MotionControl.Binary.Arithmetic
import MotionControl.Proofs.Binary.Rounding

/-!
# Sums and the order of numbers

A sum is rounded once, so it keeps to the side of its summands: adding a number that is not below
zero does not lead below the other summand (`Binary.rank_le_rank_add`), and taking one away does not
lead above it (`Binary.rank_sub_le_rank`), overflow included. The exact total of two finite numbers
is an integer of units, and the rank of the sum is a function of that total which grows with it
(`Binary.totalRank`).
-/

set_option autoImplicit false
set_option relaxedAutoImplicit false

namespace MotionControl.Binary

variable {F : BinaryFormat}

/-! ### Ranks -/

theorem rank_ofCode (negative : Bool) (code : Nat) :
    (ofCode negative code : Binary F).rank =
      some (if negative then -((min code F.infinityCode : Nat) : Int)
        else (min code F.infinityCode : Nat)) := by
  unfold ofCode
  split
  next h => rw [Nat.min_eq_left h.le]; rfl
  next h => rw [Nat.min_eq_right (Nat.not_lt.mp h)]; rfl

theorem rank_eq_none_iff {x : Binary F} : x.rank = none ↔ x = nan := by
  cases x <;> simp [rank]

theorem order?_of_rank {a b : Binary F} {i j : Int} (ha : a.rank = some i) (hb : b.rank = some j) :
    order? a b = some (compare i j) := by
  rw [order?, ha, hb]

/-! ### Totals -/

/-- The rank of the number nearest to a total of units. -/
def totalRank (F : BinaryFormat) (total : Int) : Int :=
  let code : Int := (min (F.nearestCode total.natAbs 1) F.infinityCode : Nat)
  if total < 0 then -code else code

theorem totalRank_mono {total total' : Int} (h : total ≤ total') :
    totalRank F total ≤ totalRank F total' := by
  have hcode (num num' : Nat) (hle : num ≤ num') :
      min (F.nearestCode num 1) F.infinityCode ≤ min (F.nearestCode num' 1) F.infinityCode :=
    min_le_min_right _ (F.nearestCode_mono Nat.one_pos hle)
  unfold totalRank
  dsimp only
  split_ifs with hneg hneg'
  · have := hcode total'.natAbs total.natAbs (by omega)
    omega
  · omega
  · omega
  · have := hcode total.natAbs total'.natAbs (by omega)
    omega

/-- A total is rounded with its own sign; only the sign of zero is free. -/
theorem rank_nearest {negative : Bool} {total : Int}
    (h : total ≠ 0 → negative = decide (total < 0)) :
    (nearest negative total.natAbs 1 : Binary F).rank = some (totalRank F total) := by
  rw [nearest, rank_ofCode, totalRank]
  by_cases hzero : total = 0
  · have hcode : F.nearestCode (0 : Int).natAbs 1 = 0 := F.nearestCode_zero Nat.one_pos
    rw [hzero, hcode]
    simp
  · simp [h hzero]

theorem rank_zero : (0 : Binary F).rank = some 0 := by
  have hcode : F.nearestCode (0 * twoPow F.scale) 1 = 0 := by
    rw [Nat.zero_mul]
    exact F.nearestCode_zero Nat.one_pos
  change (ofCode false (F.nearestCode (0 * twoPow F.scale) 1) : Binary F).rank = some 0
  rw [rank_ofCode, hcode]
  simp

theorem zero_ne_nan : (0 : Binary F) ≠ nan := by
  intro h
  have hrank : (0 : Binary F).rank = some 0 := rank_zero
  rw [h] at hrank
  cases hrank

/-- A finite number is the one nearest to its own magnitude. -/
theorem finite_eq_nearest (negative : Bool) (code : Fin F.infinityCode) :
    finite negative code = nearest negative (F.units code) 1 := by
  have hexact := F.nearestCode_units code Nat.one_pos
  rw [Nat.mul_one] at hexact
  rw [nearest, hexact, ofCode, dif_pos code.isLt]

theorem natAbs_signedUnits (negative : Bool) (code : Nat) :
    (signedUnits F negative code).natAbs = F.units code := by
  cases negative <;> simp [signedUnits]

theorem rank_finite (negative : Bool) (code : Fin F.infinityCode) :
    (finite negative code : Binary F).rank = some (totalRank F (signedUnits F negative code)) := by
  rw [finite_eq_nearest, ← natAbs_signedUnits negative]
  refine rank_nearest fun hne ↦ ?_
  cases negative with
  | false => simp [signedUnits]
  | true =>
    simp only [signedUnits, if_true] at hne ⊢
    rw [eq_comm, decide_eq_true_iff]
    omega

theorem rank_add_finite (m n : Bool) (a b : Fin F.infinityCode) :
    (finite m a + finite n b : Binary F).rank =
      some (totalRank F (signedUnits F m a + signedUnits F n b)) :=
  rank_nearest fun hne ↦ by rw [if_neg hne]

/-! ### What is not below zero -/

/-- A number is at or above zero if its rank is. -/
theorem isNonnegative_iff {x : Binary F} :
    x.isNonnegative = true ↔ ∃ i, x.rank = some i ∧ 0 ≤ i := by
  cases hx : x.rank with
  | none => simp [isNonnegative, order?, hx]
  | some i =>
    rw [isNonnegative, order?_of_rank hx rank_zero]
    rcases lt_trichotomy i 0 with hlt | rfl | hgt
    · simp [compare_lt_iff_lt.mpr hlt, hlt]
    · simp
    · simp [compare_gt_iff_gt.mpr hgt, hgt.le]

/-- The units of a finite number that is not below zero. -/
theorem signedUnits_nonneg {negative : Bool} {code : Fin F.infinityCode}
    (h : (finite negative code : Binary F).isNonnegative = true) :
    0 ≤ signedUnits F negative code := by
  obtain ⟨i, hrank, hi⟩ := isNonnegative_iff.mp h
  cases negative with
  | false => exact Int.natCast_nonneg _
  | true =>
    obtain rfl : -((code : Nat) : Int) = i := Option.some_inj.mp hrank
    have hcode : (code : Nat) = 0 := by omega
    simp [signedUnits, hcode, F.units_zero]

/-- Adding a finite number that is not below zero does not lead below the other summand. -/
theorem rank_le_rank_add {x y : Binary F} (hx : x ≠ nan) (finite : y.isFinite = true)
    (nonneg : y.isNonnegative = true) :
    ∃ i j, x.rank = some i ∧ (x + y).rank = some j ∧ i ≤ j := by
  cases y with
  | nan => cases finite
  | inf => cases finite
  | finite n b =>
    have hb := signedUnits_nonneg nonneg
    cases x with
    | nan => exact absurd rfl hx
    | inf m => exact ⟨_, _, rfl, rfl, le_rfl⟩
    | finite m a =>
      exact ⟨_, _, rank_finite m a, rank_add_finite m n a b, totalRank_mono (by omega)⟩

/-- Taking away a finite number that is not below zero does not lead above the other number. -/
theorem rank_sub_le_rank {x y : Binary F} (hx : x ≠ nan) (finite : y.isFinite = true)
    (nonneg : y.isNonnegative = true) :
    ∃ i j, (x - y).rank = some i ∧ x.rank = some j ∧ i ≤ j := by
  cases y with
  | nan => cases finite
  | inf => cases finite
  | finite n b =>
    have hb := signedUnits_nonneg nonneg
    have hneg : signedUnits F (!n) b = -signedUnits F n b := by cases n <;> simp [signedUnits]
    cases x with
    | nan => exact absurd rfl hx
    | inf m => exact ⟨_, _, rfl, rfl, le_rfl⟩
    | finite m a =>
      exact ⟨_, _, rank_add_finite m (!n) a b, rank_finite m a, totalRank_mono (by omega)⟩

end MotionControl.Binary
