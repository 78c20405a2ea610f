import Mathlib.Data.Nat.Log
import Mathlib.Tactic.Ring
import Mathlib.Tactic.Set
import MotionControl.Binary.Basic

/-!
# Rounding to the nearest code

Rounding keeps the order of magnitudes (`BinaryFormat.nearestCode_mono`) and is exact on every
magnitude that has a code (`BinaryFormat.nearestCode_units`). Both rest on one fact about a binade:
with `k` the excess of the leading bit, the rounded multiple of `2 ^ k` is at most the first
multiple of the next binade, where counting on from `k` full binades goes over into counting on from
`k + 1`.
-/

set_option autoImplicit false
set_option relaxedAutoImplicit false

namespace MotionControl

theorem twoPow_pos (exponent : Nat) : 0 < twoPow exponent := Nat.two_pow_pos exponent

theorem twoPow_add (first second : Nat) :
    twoPow (first + second) = twoPow first * twoPow second := Nat.pow_add 2 first second

theorem twoPow_zero : twoPow 0 = 1 := rfl

theorem twoPow_succ (exponent : Nat) : twoPow (exponent + 1) = 2 * twoPow exponent :=
  Nat.pow_succ'

/-! ### Halves to even -/

theorem roundHalfEven_mul (n : Nat) {den : Nat} (pos : 0 < den) :
    roundHalfEven (n * den) den = n := by
  simp [roundHalfEven, Nat.mul_div_cancel n pos, pos]

theorem roundHalfEven_mono {num num' : Nat} (den : Nat) (h : num ≤ num') :
    roundHalfEven num den ≤ roundHalfEven num' den := by
  have hfloor : num / den ≤ num' / den := Nat.div_le_div_right h
  unfold roundHalfEven
  rcases hfloor.lt_or_eq with hlt | heq
  · -- The next whole number is not exceeded from below nor fallen short of from above.
    grind
  · have hrest : num % den ≤ num' % den := by
      have hnum := Nat.div_add_mod num den
      have hnum' := Nat.div_add_mod num' den
      rw [heq] at hnum
      omega
    grind

/-- A bound that is a whole number survives rounding. -/
theorem roundHalfEven_le {num den bound : Nat} (pos : 0 < den) (h : num ≤ bound * den) :
    roundHalfEven num den ≤ bound := by
  rw [← roundHalfEven_mul bound pos]
  exact roundHalfEven_mono den h

theorem le_roundHalfEven {num den bound : Nat} (pos : 0 < den) (h : bound * den ≤ num) :
    bound ≤ roundHalfEven num den := by
  rw [← roundHalfEven_mul bound pos]
  exact roundHalfEven_mono den h

namespace BinaryFormat

variable (F : BinaryFormat)

/-- By how much the leading bit of a magnitude exceeds the fraction width. -/
def excess (num den : Nat) : Nat := (num / den).log2 - F.fractionBits

theorem excess_mono {num num' : Nat} (den : Nat) (h : num ≤ num') :
    F.excess num den ≤ F.excess num' den := by
  have hlog : (num / den).log2 ≤ (num' / den).log2 := by
    rw [Nat.log2_eq_log_two, Nat.log2_eq_log_two]
    exact Nat.log_mono_right (Nat.div_le_div_right h)
  unfold excess
  omega

/-- Within its binade, a magnitude rounds at most to the start of the next one. -/
theorem roundHalfEven_excess_le (num : Nat) {den : Nat} (pos : 0 < den) :
    roundHalfEven num (den * twoPow (F.excess num den)) ≤ 2 * twoPow F.fractionBits := by
  refine roundHalfEven_le (Nat.mul_pos pos (twoPow_pos _)) ?_
  have hlt : num / den < twoPow ((num / den).log2 + 1) := Nat.lt_log2_self
  have hle : twoPow ((num / den).log2 + 1) ≤
      twoPow (1 + F.fractionBits + F.excess num den) :=
    Nat.pow_le_pow_right (by decide) (by unfold excess; omega)
  have hnum : num < twoPow (1 + F.fractionBits + F.excess num den) * den :=
    (Nat.div_lt_iff_lt_mul pos).mp (hlt.trans_le hle)
  rw [twoPow_add, twoPow_add] at hnum
  calc num ≤ twoPow 1 * twoPow F.fractionBits * twoPow (F.excess num den) * den := hnum.le
    _ = 2 * twoPow F.fractionBits * (den * twoPow (F.excess num den)) := by
      rw [show twoPow 1 = 2 from rfl]
      ring

/-- Above the first binade, a magnitude rounds at least to the start of its own. -/
theorem le_roundHalfEven_excess {num den : Nat} (pos : 0 < den) (h : 0 < F.excess num den) :
    twoPow F.fractionBits ≤ roundHalfEven num (den * twoPow (F.excess num den)) := by
  refine le_roundHalfEven (Nat.mul_pos pos (twoPow_pos _)) ?_
  have hlog : (num / den).log2 = F.fractionBits + F.excess num den := by
    unfold excess at h ⊢
    omega
  have hne : num / den ≠ 0 := by
    intro hzero
    rw [hzero, Nat.log2_zero] at hlog
    omega
  have hself : twoPow (num / den).log2 ≤ num / den := Nat.log2_self_le hne
  rw [hlog, twoPow_add, Nat.le_div_iff_mul_le pos] at hself
  calc twoPow F.fractionBits * (den * twoPow (F.excess num den))
      = twoPow F.fractionBits * twoPow (F.excess num den) * den := by ring
    _ ≤ num := hself

theorem nearestCode_eq (num den : Nat) :
    F.nearestCode num den = F.excess num den * twoPow F.fractionBits +
      roundHalfEven num (den * twoPow (F.excess num den)) := rfl

/-- The larger of two magnitudes does not have the smaller code. -/
theorem nearestCode_mono {num num' den : Nat} (pos : 0 < den) (h : num ≤ num') :
    F.nearestCode num den ≤ F.nearestCode num' den := by
  rw [nearestCode_eq, nearestCode_eq]
  rcases (F.excess_mono den h).lt_or_eq with hlt | heq
  · have hbelow := F.roundHalfEven_excess_le num pos
    have hsteps : 0 < F.excess num' den := by omega
    have habove := F.le_roundHalfEven_excess pos hsteps
    have hbinade : (F.excess num den + 1) * twoPow F.fractionBits ≤
        F.excess num' den * twoPow F.fractionBits := Nat.mul_le_mul_right _ hlt
    rw [Nat.add_one_mul] at hbinade
    omega
  · rw [heq]
    exact Nat.add_le_add_left (roundHalfEven_mono _ h) _

/-- The leading bit of a magnitude with an implicit bit is that bit. -/
theorem log2_mul_twoPow {fraction : Nat} (h : fraction < twoPow F.fractionBits) (shift : Nat) :
    ((twoPow F.fractionBits + fraction) * twoPow shift).log2 = F.fractionBits + shift := by
  have hpos : 0 < (twoPow F.fractionBits + fraction) * twoPow shift :=
    Nat.mul_pos (Nat.add_pos_left (twoPow_pos _) _) (twoPow_pos _)
  refine (Nat.log2_eq_iff hpos.ne').mpr ⟨?_, ?_⟩
  · calc 2 ^ (F.fractionBits + shift)
        = twoPow F.fractionBits * twoPow shift := twoPow_add ..
      _ ≤ (twoPow F.fractionBits + fraction) * twoPow shift :=
        Nat.mul_le_mul_right _ (Nat.le_add_right ..)
  · calc (twoPow F.fractionBits + fraction) * twoPow shift
        < (2 * twoPow F.fractionBits) * twoPow shift :=
          Nat.mul_lt_mul_of_pos_right (by omega) (twoPow_pos _)
      _ = 2 ^ (F.fractionBits + shift + 1) := by
        simp only [twoPow, Nat.pow_eq]
        ring

/-- The magnitude of a code rounds to that code. -/
theorem nearestCode_units (code : Nat) {den : Nat} (pos : 0 < den) :
    F.nearestCode (F.units code * den) den = code := by
  have hsplit := Nat.div_add_mod code (twoPow F.fractionBits)
  have hfraction := Nat.mod_lt code (twoPow_pos F.fractionBits)
  rw [nearestCode_eq, excess, Nat.mul_div_cancel _ pos]
  unfold units
  set exponent := code / twoPow F.fractionBits
  set fraction := code % twoPow F.fractionBits
  cases hexponent : exponent with
  | zero =>
    have hlog : fraction.log2 ≤ F.fractionBits := by
      rcases Nat.eq_zero_or_pos fraction with hnone | hpos
      · simp [hnone]
      · exact ((Nat.log2_lt hpos.ne').mpr hfraction).le
    have hone : den * twoPow 0 = den := Nat.mul_one den
    rw [if_pos rfl, Nat.sub_eq_zero_of_le hlog, hone, roundHalfEven_mul fraction pos]
    simpa [hexponent] using hsplit
  | succ previous =>
    rw [if_neg (Nat.succ_ne_zero previous), Nat.add_sub_cancel, F.log2_mul_twoPow hfraction,
      Nat.add_sub_cancel_left, Nat.mul_right_comm, Nat.mul_assoc,
      roundHalfEven_mul _ (Nat.mul_pos pos (twoPow_pos _))]
    rw [hexponent, Nat.mul_comm, Nat.add_one_mul] at hsplit
    omega

theorem units_zero : F.units 0 = 0 := by simp [units]

theorem nearestCode_zero {den : Nat} (pos : 0 < den) : F.nearestCode 0 den = 0 := by
  have hexact := F.nearestCode_units 0 pos
  rwa [units_zero, Nat.zero_mul] at hexact

end BinaryFormat

end MotionControl
