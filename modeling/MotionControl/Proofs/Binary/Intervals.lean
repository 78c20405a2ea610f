import Mathlib.Tactic.Ring
import MotionControl.Binary.Shortest
import MotionControl.Proofs.Binary.Rounding

/-!
# Rounding intervals lie side by side

The rounding interval of each code begins where that of the code below it ends
(`RoundingInterval.low_ofCode_succ`), also from one binade to the next, and of two neighbours only
the one with the even code holds their common end. So a point lies in the interval of one code at
most (`RoundingInterval.eq_of_holds`).
-/

set_option autoImplicit false
set_option relaxedAutoImplicit false

namespace MotionControl

/-! ### Neighbouring codes -/

namespace BinaryFormat

variable (F : BinaryFormat)

/-- By how many units the magnitude of the next code is larger. -/
def gap (code : Nat) : Nat := twoPow (code / twoPow F.fractionBits - 1)

theorem gap_pos (code : Nat) : 0 < F.gap code := twoPow_pos _

/-- The next code is in the same binade, or it is the first one of the next binade. -/
theorem fields_succ (code : Nat) :
    ((code + 1) / twoPow F.fractionBits = code / twoPow F.fractionBits ∧
        (code + 1) % twoPow F.fractionBits = code % twoPow F.fractionBits + 1) ∨
      ((code + 1) / twoPow F.fractionBits = code / twoPow F.fractionBits + 1 ∧
        (code + 1) % twoPow F.fractionBits = 0 ∧
        code % twoPow F.fractionBits + 1 = twoPow F.fractionBits) := by
  have hpos := twoPow_pos F.fractionBits
  have hsplit := Nat.mod_add_div code (twoPow F.fractionBits)
  have hbound : code % twoPow F.fractionBits + 1 ≤ twoPow F.fractionBits := Nat.mod_lt code hpos
  rcases hbound.lt_or_eq with hinside | hlast
  · refine .inl ((Nat.div_mod_unique hpos).mpr ⟨?_, hinside⟩)
    omega
  · have hnext : 0 + twoPow F.fractionBits * (code / twoPow F.fractionBits + 1) = code + 1 := by
      rw [Nat.mul_add_one]
      omega
    obtain ⟨hexponent, hfraction⟩ := (Nat.div_mod_unique hpos).mpr ⟨hnext, hpos⟩
    exact .inr ⟨hexponent, hfraction, hlast⟩

theorem units_succ (code : Nat) : F.units (code + 1) = F.units code + F.gap code := by
  have hfields := F.fields_succ code
  unfold units gap
  generalize code / twoPow F.fractionBits = exponent at hfields ⊢
  generalize code % twoPow F.fractionBits = fraction at hfields ⊢
  rcases hfields with ⟨hexponent, hfraction⟩ | ⟨hexponent, hfraction, hlast⟩
  · rw [hexponent, hfraction]
    cases exponent with
    | zero => simp [twoPow_zero]
    | succ previous =>
      simp only [Nat.succ_ne_zero, if_false, Nat.add_sub_cancel]
      ring
  · rw [hexponent, hfraction, ← hlast]
    cases exponent with
    | zero => simp [twoPow_zero]
    | succ previous =>
      simp only [Nat.succ_ne_zero, if_false, Nat.add_sub_cancel, twoPow_succ]
      ring

end BinaryFormat

/-! ### Neighbouring intervals -/

namespace RoundingInterval

section Ends

variable (F : BinaryFormat)

theorem high_ofCode (code : Nat) : (ofCode F code).high = 4 * F.units code + 2 * F.gap code := rfl

/-- Each interval begins where the one below it ends. -/
theorem low_ofCode_succ (code : Nat) : (ofCode F (code + 1)).low = (ofCode F code).high := by
  have hfields := F.fields_succ code
  rw [high_ofCode]
  unfold ofCode
  dsimp only
  rw [F.units_succ]
  unfold BinaryFormat.gap
  generalize code / twoPow F.fractionBits = exponent at hfields ⊢
  rcases hfields with ⟨hexponent, hfraction⟩ | ⟨hexponent, hfraction, -⟩
  · rw [hexponent, if_neg (by omega)]
    omega
  · rw [hexponent, hfraction, Nat.add_sub_cancel]
    cases exponent with
    | zero =>
      rw [if_neg (by decide), twoPow_zero]
      omega
    | succ previous =>
      -- The gap doubles from one binade to the next, and the lower neighbour is half a gap away.
      have hpos := twoPow_pos previous
      rw [twoPow_succ, if_pos ⟨rfl, by omega⟩, Nat.add_sub_cancel]
      omega

theorem middle_lt_high (code : Nat) : 4 * F.units code < (ofCode F code).high := by
  have hgap := F.gap_pos code
  rw [high_ofCode]
  omega

theorem low_le_middle (code : Nat) : (ofCode F code).low ≤ 4 * F.units code := by
  unfold ofCode
  dsimp only
  split_ifs <;> exact Nat.sub_le ..

theorem low_lt_middle {code : Nat} (pos : 0 < code) :
    (ofCode F code).low < 4 * F.units code := by
  obtain ⟨previous, rfl⟩ := Nat.exists_eq_succ_of_ne_zero pos.ne'
  have hgap := F.gap_pos previous
  rw [low_ofCode_succ, high_ofCode, F.units_succ]
  omega

theorem low_lt_high (code : Nat) : (ofCode F code).low < (ofCode F code).high :=
  (low_le_middle F code).trans_lt (middle_lt_high F code)

/-- Beyond its neighbour, an interval has not even an end in common with the ones below. -/
theorem high_lt_low {a b : Nat} (h : a + 1 < b) : (ofCode F a).high < (ofCode F b).low := by
  induction b, h using Nat.le_induction with
  | base =>
    rw [low_ofCode_succ, ← low_ofCode_succ F a]
    exact low_lt_high F (a + 1)
  | succ b _ ih =>
    rw [low_ofCode_succ]
    exact ih.trans (low_lt_high F b)

end Ends

section Points

variable {F : BinaryFormat} {interval : RoundingInterval} {a b scaling x : Nat}

theorem holds_bounds (h : interval.holds scaling x = true) :
    interval.low * scaling ≤ x ∧ x ≤ interval.high * scaling := by
  unfold holds at h
  split at h <;> simp only [Bool.and_eq_true, decide_eq_true_eq] at h <;> omega

theorem closed_of_holds (h : interval.holds scaling x = true)
    (hend : x = interval.low * scaling ∨ x = interval.high * scaling) :
    interval.closed = true := by
  unfold holds at h
  split at h
  next hclosed => exact hclosed
  next =>
    simp only [Bool.and_eq_true, decide_eq_true_eq] at h
    omega

/-- A point strictly between the ends is held, whether they are or not. -/
theorem holds_of_between (hlow : interval.low * scaling < x) (hhigh : x < interval.high * scaling) :
    interval.holds scaling x = true := by
  unfold holds
  split <;> simp [hlow, hhigh, hlow.le, hhigh.le]

/-- No point lies in the interval of a code and in that of a larger one. -/
theorem not_holds_of_lt (pos : 0 < scaling) (hlt : a < b)
    (ha : (ofCode F a).holds scaling x = true) : (ofCode F b).holds scaling x = false := by
  rw [Bool.eq_false_iff]
  intro hb
  have habove := (holds_bounds ha).2
  have hbelow := (holds_bounds hb).1
  rcases (Nat.succ_le_of_lt hlt).lt_or_eq with hfar | rfl
  · have hapart := Nat.mul_lt_mul_of_pos_right (high_lt_low F hfar) pos
    omega
  · -- The point is the common end of two neighbours, which only the even one holds.
    rw [low_ofCode_succ] at hbelow
    have hend : x = (ofCode F a).high * scaling := Nat.le_antisymm habove hbelow
    have hlower := closed_of_holds ha (.inr hend)
    have hupper := closed_of_holds hb (.inl (by rw [low_ofCode_succ]; exact hend))
    simp only [ofCode, decide_eq_true_eq] at hlower hupper
    omega

/-- A point lies in the interval of one code at most. -/
theorem eq_of_holds (pos : 0 < scaling) (ha : (ofCode F a).holds scaling x = true)
    (hb : (ofCode F b).holds scaling x = true) : a = b := by
  rcases Nat.lt_trichotomy a b with hlt | heq | hgt
  · rw [not_holds_of_lt pos hlt ha] at hb
    cases hb
  · exact heq
  · rw [not_holds_of_lt pos hgt hb] at ha
    cases ha

end Points

end RoundingInterval

end MotionControl
