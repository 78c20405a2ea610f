import Mathlib.Algebra.Order.Field.Rat
import Mathlib.Data.Rat.Cast.Order
import MotionControl.Proofs.Binary.Order

/-!
# The values of binary floating-point numbers

A finite number has a value, a rational number (`Binary.value?`). Magnitudes grow strictly with
their codes, so the order of finite numbers is the order of their values
(`Binary.order?_of_value?`).

A number of another format is the same number if it is also NaN, or the same infinity, or has the
same sign and the same value (`Binary.SameNumber`). To convert the same number of another format
gives the number itself (`Binary.convert_of_sameNumber`), and every number of single precision is
the same number as one of double precision (`Binary.exists_sameNumber_double`).
-/

set_option autoImplicit false
set_option relaxedAutoImplicit false

namespace MotionControl

namespace BinaryFormat

variable (F : BinaryFormat)

theorem units_lt_units_iff {a b : Nat} : F.units a < F.units b ↔ a < b := by
  -- Rounding undoes `units` and keeps the order, so `units` cannot turn the order around.
  have hle {a b : Nat} (h : F.units a ≤ F.units b) : a ≤ b := by
    have hcodes := F.nearestCode_mono Nat.one_pos (Nat.mul_le_mul_right 1 h)
    rwa [F.nearestCode_units a Nat.one_pos, F.nearestCode_units b Nat.one_pos] at hcodes
  constructor
  · intro h
    refine (hle h.le).lt_of_ne fun heq ↦ ?_
    exact h.ne (congrArg F.units heq)
  · exact fun h ↦ Nat.lt_of_not_le fun hunits ↦ Nat.not_le_of_lt h (hle hunits)

end BinaryFormat

namespace Binary

variable {F G : BinaryFormat}

/-- The value of a finite number. -/
def value? : Binary F → Option ℚ
  | finite negative code => some (signedUnits F negative code / twoPow F.scale)
  | _ => none

theorem isFinite_iff {x : Binary F} : x.isFinite = true ↔ ∃ q, x.value? = some q := by
  cases x <;> simp [isFinite, value?]

/-! ### The order of values -/

theorem signedUnits_lt_signedUnits_iff {m n : Bool} {a b : Fin F.infinityCode} {i j : Int}
    (hi : (finite m a : Binary F).rank = some i) (hj : (finite n b : Binary F).rank = some j) :
    signedUnits F m a < signedUnits F n b ↔ i < j := by
  obtain rfl := Option.some_inj.mp hi
  obtain rfl := Option.some_inj.mp hj
  have hab := F.units_lt_units_iff (a := a) (b := b)
  have hba := F.units_lt_units_iff (a := b) (b := a)
  have ha := F.units_lt_units_iff (a := 0) (b := a)
  have hb := F.units_lt_units_iff (a := 0) (b := b)
  rw [F.units_zero] at ha hb
  cases m <;> cases n <;> simp only [signedUnits, if_true, Bool.false_eq_true, if_false] <;> omega

theorem value?_lt_iff {x y : Binary F} {i j : Int} {p q : ℚ} (hi : x.rank = some i)
    (hj : y.rank = some j) (hp : x.value? = some p) (hq : y.value? = some q) :
    p < q ↔ i < j := by
  cases x with
  | nan => cases hp
  | inf => cases hp
  | finite m a =>
    cases y with
    | nan => cases hq
    | inf => cases hq
    | finite n b =>
      obtain rfl := Option.some_inj.mp hp
      obtain rfl := Option.some_inj.mp hq
      have hpos : (0 : ℚ) < twoPow F.scale := Nat.cast_pos.mpr (twoPow_pos _)
      rw [div_lt_div_iff_of_pos_right hpos, Int.cast_lt]
      exact signedUnits_lt_signedUnits_iff hi hj

theorem exists_rank_of_value? {x : Binary F} {p : ℚ} (h : x.value? = some p) :
    ∃ i, x.rank = some i := by
  cases x with
  | nan => cases h
  | inf => cases h
  | finite m a => exact ⟨_, rfl⟩

/-- The order of finite numbers is the order of their values. -/
theorem order?_of_value? {x y : Binary F} {p q : ℚ} (hp : x.value? = some p)
    (hq : y.value? = some q) : order? x y = some (compare p q) := by
  obtain ⟨i, hi⟩ := exists_rank_of_value? hp
  obtain ⟨j, hj⟩ := exists_rank_of_value? hq
  have hlt := value?_lt_iff hi hj hp hq
  have hgt := value?_lt_iff hj hi hq hp
  rw [order?_of_rank hi hj, Option.some_inj]
  rcases lt_trichotomy i j with h | rfl | h
  · rw [compare_lt_iff_lt.mpr h, compare_lt_iff_lt.mpr (hlt.mpr h)]
  · have hpq : p = q := le_antisymm (not_lt.mp fun h ↦ (hgt.mp h).ne rfl)
      (not_lt.mp fun h ↦ (hlt.mp h).ne rfl)
    rw [compare_eq_iff_eq.mpr rfl, compare_eq_iff_eq.mpr hpq]
  · rw [compare_gt_iff_gt.mpr h, compare_gt_iff_gt.mpr (hgt.mpr h)]

theorem value?_zero : (0 : Single).value? = some 0 := by
  have hzero : (0 : Single) = finite false ⟨0, by decide +kernel⟩ := by decide +kernel
  rw [hzero, value?, signedUnits, BinaryFormat.units_zero]
  simp

theorem value?_one : (1 : Single).value? = some 1 := by
  have hone : (1 : Single) = finite false ⟨0x3f800000, by decide +kernel⟩ := by decide +kernel
  have hunits : BinaryFormat.single.units 0x3f800000 = twoPow BinaryFormat.single.scale := by
    decide +kernel
  have hpos : (twoPow BinaryFormat.single.scale : ℚ) ≠ 0 := Nat.cast_ne_zero.mpr (twoPow_pos _).ne'
  rw [hone, value?, signedUnits, hunits]
  simp [hpos]

/-! ### The same number in two formats -/

/-- Numbers of two formats that are one number: NaN, the same infinity, or numbers of the same sign
and value. -/
inductive SameNumber : Binary F → Binary G → Prop
  | nan : SameNumber .nan .nan
  | inf (negative : Bool) : SameNumber (.inf negative) (.inf negative)
  | finite {negative : Bool} {a : Fin F.infinityCode} {b : Fin G.infinityCode}
      (value : (Binary.finite negative a).value? = (Binary.finite negative b).value?) :
      SameNumber (.finite negative a) (.finite negative b)

/-- Values are compared across formats in units of both. -/
theorem value?_eq_value?_iff {negative : Bool} {a : Fin F.infinityCode} {b : Fin G.infinityCode} :
    (finite negative a : Binary F).value? = (finite negative b : Binary G).value? ↔
      F.units a * twoPow G.scale = G.units b * twoPow F.scale := by
  have hF : (twoPow F.scale : ℚ) ≠ 0 := Nat.cast_ne_zero.mpr (twoPow_pos _).ne'
  have hG : (twoPow G.scale : ℚ) ≠ 0 := Nat.cast_ne_zero.mpr (twoPow_pos _).ne'
  rw [value?, value?, Option.some_inj, div_eq_div_iff hF hG]
  cases negative
  · simp only [signedUnits, Bool.false_eq_true, if_false]
    norm_cast
  · simp only [signedUnits, if_true, Int.cast_neg, neg_mul, neg_inj]
    norm_cast

/-- To convert the same number of another format gives the number itself. -/
theorem convert_of_sameNumber {x : Binary F} {y : Binary G} (same : SameNumber x y) :
    x.convert = y := by
  cases same with
  | nan => rfl
  | inf => rfl
  | @finite negative a b value =>
    rw [convert, value?_eq_value?_iff.mp value, nearest, G.nearestCode_units b (twoPow_pos _),
      ofCode, dif_pos b.isLt]

end Binary

namespace BinaryFormat

variable (F : BinaryFormat)

/-- A magnitude has at most one bit more than the fraction, and is then shifted. -/
theorem exists_units_eq (code : Nat) :
    ∃ leading shift, leading < 2 * twoPow F.fractionBits ∧
      F.units code = leading * twoPow shift := by
  have hfraction := Nat.mod_lt code (twoPow_pos F.fractionBits)
  unfold units
  by_cases h : code / twoPow F.fractionBits = 0
  · refine ⟨code % twoPow F.fractionBits, 0, by omega, ?_⟩
    rw [if_pos h]
    exact (Nat.mul_one _).symm
  · refine ⟨twoPow F.fractionBits + code % twoPow F.fractionBits,
      code / twoPow F.fractionBits - 1, by omega, ?_⟩
    rw [if_neg h]

/-- In the first two binades, a code is its own magnitude. -/
theorem units_of_lt {code : Nat} (h : code < 2 * twoPow F.fractionBits) : F.units code = code := by
  have hsplit := Nat.div_add_mod code (twoPow F.fractionBits)
  have hexponent : code / twoPow F.fractionBits < 2 :=
    (Nat.div_lt_iff_lt_mul (twoPow_pos _)).mpr h
  unfold units
  dsimp only
  split_ifs with hzero
  · rwa [hzero, Nat.mul_zero, Nat.zero_add] at hsplit
  · have hone : code / twoPow F.fractionBits = 1 :=
      Nat.le_antisymm (Nat.le_of_lt_succ hexponent) (Nat.one_le_iff_ne_zero.mpr hzero)
    rw [hone, Nat.mul_one] at hsplit
    rw [hone]
    exact (Nat.mul_one _).trans hsplit

/-- From the second binade on, the next binade has twice the magnitudes. -/
theorem units_add_binade {code : Nat} (h : twoPow F.fractionBits ≤ code) :
    F.units (code + twoPow F.fractionBits) = 2 * F.units code := by
  have hpos := twoPow_pos F.fractionBits
  have hexponent : code / twoPow F.fractionBits ≠ 0 := (Nat.div_pos h hpos).ne'
  obtain ⟨exponent, hexponent⟩ := Nat.exists_eq_succ_of_ne_zero hexponent
  unfold units
  rw [Nat.add_div_right _ hpos, Nat.add_mod_right, hexponent]
  simp only [Nat.succ_ne_zero, if_false, Nat.succ_eq_add_one, Nat.add_sub_cancel, twoPow_succ]
  exact Nat.mul_left_comm ..

/-- Every shifted magnitude of at most one bit more than the fraction has a code. -/
theorem exists_code {leading : Nat} (h : leading < 2 * twoPow F.fractionBits) (shift : Nat) :
    ∃ code, F.units code = leading * twoPow shift := by
  induction shift with
  | zero => exact ⟨leading, (F.units_of_lt h).trans (Nat.mul_one _).symm⟩
  | succ shift ih =>
    obtain ⟨code, hcode⟩ := ih
    have hdouble : leading * twoPow (shift + 1) = 2 * F.units code := by
      rw [hcode, twoPow_succ]
      exact Nat.mul_left_comm ..
    rw [hdouble]
    by_cases hsmall : code < twoPow F.fractionBits
    · refine ⟨2 * code, ?_⟩
      rw [F.units_of_lt (show 2 * code < _ by omega), F.units_of_lt (show code < _ by omega)]
    · exact ⟨code + twoPow F.fractionBits, F.units_add_binade (not_lt.mp hsmall)⟩

end BinaryFormat

namespace Binary

/-- Every number of single precision is one of double precision. -/
theorem exists_sameNumber_double (x : Single) : ∃ d : Double, SameNumber d x := by
  cases x with
  | nan => exact ⟨.nan, .nan⟩
  | inf negative => exact ⟨.inf negative, .inf negative⟩
  | finite negative b =>
    -- One is `2 ^ 1074` units of double precision and `2 ^ 149` of single precision.
    obtain ⟨leading, shift, hleading, hunits⟩ := BinaryFormat.single.exists_units_eq b
    obtain ⟨code, hcode⟩ := BinaryFormat.double.exists_code
      (show leading < 2 * twoPow 52 from hleading.trans (by decide)) (shift + 925)
    have hscaled : BinaryFormat.double.units code = BinaryFormat.single.units b * twoPow 925 := by
      rw [hcode, hunits, twoPow_add, Nat.mul_assoc]
    have hlarge : BinaryFormat.single.units BinaryFormat.single.infinityCode * twoPow 925 <
        BinaryFormat.double.units BinaryFormat.double.infinityCode := by
      decide +kernel
    have hlt : code < BinaryFormat.double.infinityCode := by
      rw [← BinaryFormat.double.units_lt_units_iff, hscaled]
      refine (Nat.mul_lt_mul_of_pos_right ?_ (twoPow_pos _)).trans hlarge
      exact BinaryFormat.single.units_lt_units_iff.mpr b.isLt
    refine ⟨.finite negative ⟨code, hlt⟩, .finite (value?_eq_value?_iff.mpr ?_)⟩
    rw [hscaled, Nat.mul_assoc]
    have hscales : twoPow 925 * twoPow BinaryFormat.single.scale =
        twoPow BinaryFormat.double.scale := by decide +kernel
    rw [hscales]

end Binary

end MotionControl
