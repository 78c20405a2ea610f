import Mathlib.Data.List.TakeWhile
import MotionControl.Proofs.Binary.Intervals

/-!
# The shortest text tells numbers apart

The decimal that a code is written as lies in the rounding interval of the code
(`BinaryFormat.isDecimalOf_shortest`), because the finest grid always has a point there. The
positional notation shows which decimal it is: its figures, and how many of them are behind the
point (`read_positional`). A decimal lies in one interval at most, so different magnitudes have
different texts (`Binary.magnitudeText_injective`), and so do different numbers
(`Binary.text_injective`).
-/

set_option autoImplicit false
set_option relaxedAutoImplicit false

namespace MotionControl

/-! ### The shortest decimal -/

namespace BinaryFormat

variable (F : BinaryFormat)

/-- The decimal `digits * 10 ^ exponent` lies in the rounding interval of a code. -/
def IsDecimalOf (digits : Nat) (exponent : Int) (code : Nat) : Prop :=
  (RoundingInterval.ofCode F code).holds (tenPow (-exponent).toNat)
    (digits * (4 * twoPow F.scale * tenPow exponent.toNat)) = true

end BinaryFormat

namespace RoundingInterval

/-- A grid point that is found lies in the interval. -/
theorem holds_of_gridPoint? {interval : RoundingInterval} {one digits : Nat} {exponent : Int}
    (h : interval.gridPoint? one exponent = some digits) :
    interval.holds (tenPow (-exponent).toNat) (digits * (one * tenPow exponent.toNat)) = true := by
  unfold gridPoint? at h
  dsimp only at h
  split at h
  next hbelow habove =>
    obtain rfl := Option.some_inj.mp h
    split_ifs
    · exact hbelow
    · exact habove
  next hbelow _ =>
    obtain rfl := Option.some_inj.mp h
    exact hbelow
  next _ habove =>
    obtain rfl := Option.some_inj.mp h
    exact habove
  next => cases h

/-- A grid on which the magnitude itself is a point has one in the interval. -/
theorem exists_gridPoint? {interval : RoundingInterval} {one : Nat} {exponent : Int}
    (hgrid : one * tenPow exponent.toNat ∣ interval.middle * tenPow (-exponent).toNat)
    (hmiddle : interval.holds (tenPow (-exponent).toNat)
      (interval.middle * tenPow (-exponent).toNat) = true) :
    ∃ digits, interval.gridPoint? one exponent = some digits := by
  unfold gridPoint?
  dsimp only
  rw [Nat.div_mul_cancel hgrid, hmiddle]
  cases interval.holds (tenPow (-exponent).toNat) _ <;> exact ⟨_, rfl⟩

/-- The magnitude of a positive code is a point of the finest grid. -/
theorem exists_gridPoint?_finest (F : BinaryFormat) {code : Nat} (pos : 0 < code) :
    ∃ digits,
      (ofCode F code).gridPoint? (4 * twoPow F.scale) (-(F.scale : Int)) = some digits := by
  have hscaling : (-(-(F.scale : Int))).toNat = F.scale := by omega
  have hspacing : (-(F.scale : Int)).toNat = 0 := by omega
  have hten : tenPow F.scale = twoPow F.scale * 5 ^ F.scale := Nat.mul_pow 2 5 F.scale
  have htenPos : 0 < tenPow F.scale := Nat.pow_pos (by decide)
  apply exists_gridPoint?
  · rw [hscaling, hspacing]
    refine ⟨F.units code * 5 ^ F.scale, ?_⟩
    change 4 * F.units code * tenPow F.scale = 4 * twoPow F.scale * 1 * _
    rw [hten]
    ring
  · rw [hscaling]
    exact holds_of_between (Nat.mul_lt_mul_of_pos_right (low_lt_middle F pos) htenPos)
      (Nat.mul_lt_mul_of_pos_right (middle_lt_high F code) htenPos)

/-- The search for the coarsest grid ends with a point of the interval. -/
theorem isDecimalOf_coarsest (F : BinaryFormat) {code : Nat} (pos : 0 < code) (count : Nat) :
    F.IsDecimalOf ((ofCode F code).coarsest F.scale count).1
      ((ofCode F code).coarsest F.scale count).2 code := by
  induction count with
  | zero =>
    obtain ⟨digits, hdigits⟩ := exists_gridPoint?_finest F pos
    rw [coarsest, hdigits]
    exact holds_of_gridPoint? hdigits
  | succ count ih =>
    rw [coarsest]
    split
    next digits hdigits => exact holds_of_gridPoint? hdigits
    next => exact ih

end RoundingInterval

namespace BinaryFormat

variable (F : BinaryFormat)

/-- The decimal that a positive code is written as lies in the interval of the code. -/
theorem isDecimalOf_shortest {code : Nat} (pos : 0 < code) :
    F.IsDecimalOf (F.shortest code).1 (F.shortest code).2 code :=
  RoundingInterval.isDecimalOf_coarsest F pos _

theorem isDecimalOf_zero : F.IsDecimalOf 0 0 0 := by
  have hlow : (RoundingInterval.ofCode F 0).low = 0 := by
    have hmiddle := RoundingInterval.low_le_middle F 0
    rw [F.units_zero] at hmiddle
    omega
  have hclosed : (RoundingInterval.ofCode F 0).closed = true := rfl
  rw [IsDecimalOf, RoundingInterval.holds, if_pos hclosed, hlow]
  simp

end BinaryFormat

/-! ### Positional notation -/

/-- The figures of a positional text, read as one number. -/
def figuresOf (text : List Char) : Nat := Nat.ofDigitChars 10 (text.filter (· ≠ '.')) 0

/-- The number of places behind the point of a positional text. -/
def placesOf (text : List Char) : Nat := (text.dropWhile (· ≠ '.')).length - 1

section Reading

variable {figures : List Char} (digital : ∀ c ∈ figures, c.isDigit = true)
include digital

theorem pointless_of_digital : ∀ c ∈ figures, decide (c ≠ '.') = true := by
  intro c hc
  rw [decide_eq_true_iff]
  rintro rfl
  exact absurd (digital _ hc) (by decide)

/-- Figures without a point are those of a whole number. -/
theorem read_whole :
    figuresOf figures = Nat.ofDigitChars 10 figures 0 ∧ placesOf figures = 0 := by
  have pointless := pointless_of_digital digital
  rw [figuresOf, placesOf, List.filter_eq_self.mpr pointless,
    List.dropWhile_eq_nil_iff.mpr pointless]
  exact ⟨rfl, rfl⟩

/-- A point shows the number of places behind it and leaves the figures as they are. -/
theorem read_split (whole : Nat) :
    figuresOf (figures.take whole ++ '.' :: figures.drop whole) = Nat.ofDigitChars 10 figures 0 ∧
      placesOf (figures.take whole ++ '.' :: figures.drop whole) = figures.length - whole := by
  have pointless := pointless_of_digital digital
  constructor
  · have hpoint : ('.' :: figures.drop whole).filter (· ≠ '.') =
        (figures.drop whole).filter (· ≠ '.') := List.filter_cons_of_neg (by decide)
    rw [figuresOf, List.filter_append, hpoint, ← List.filter_append, List.take_append_drop,
      List.filter_eq_self.mpr pointless]
  · have hwhole : ∀ c ∈ figures.take whole, decide (c ≠ '.') = true :=
      fun c hc ↦ pointless c (List.mem_of_mem_take hc)
    rw [placesOf, List.dropWhile_append_of_pos hwhole, List.dropWhile_cons_of_neg (by decide),
      List.length_cons, Nat.add_sub_cancel, List.length_drop]

end Reading

theorem isDigit_of_mem_toDigits {n : Nat} : ∀ c ∈ Nat.toDigits 10 n, c.isDigit = true :=
  fun _ hc ↦ Nat.isDigit_of_mem_toDigits (by decide) (by decide) hc

theorem isDigit_of_mem_zeros {n : Nat} : ∀ c ∈ List.replicate n '0', c.isDigit = true := by
  intro c hc
  rw [List.eq_of_mem_replicate hc]
  decide

theorem isDigit_of_mem_toDigits_append (digits zeros : Nat) :
    ∀ c ∈ Nat.toDigits 10 digits ++ List.replicate zeros '0', c.isDigit = true :=
  List.forall_mem_append.mpr ⟨isDigit_of_mem_toDigits, isDigit_of_mem_zeros⟩

theorem isDigit_of_mem_zeros_append (zeros digits : Nat) :
    ∀ c ∈ List.replicate zeros '0' ++ Nat.toDigits 10 digits, c.isDigit = true :=
  List.forall_mem_append.mpr ⟨isDigit_of_mem_zeros, isDigit_of_mem_toDigits⟩

/-- Positional text shows the places of a decimal and its figures, the zeros of a whole number
included. -/
theorem read_positional (digits : Nat) (exponent : Int) :
    figuresOf (positional digits exponent) = digits * tenPow exponent.toNat ∧
      placesOf (positional digits exponent) = (-exponent).toNat := by
  unfold positional
  dsimp only
  split_ifs with h
  · obtain ⟨hfigures, hplaces⟩ := read_whole (isDigit_of_mem_toDigits_append digits exponent.toNat)
    rw [hfigures, hplaces, Nat.ofDigitChars_append, Nat.ofDigitChars_ten_toDigits,
      Nat.ofDigitChars_replicate_zero, Nat.mul_comm]
    exact ⟨rfl, by omega⟩
  · generalize hzeros : (-exponent).toNat + 1 - (Nat.toDigits 10 digits).length = zeros
    obtain ⟨hfigures, hplaces⟩ := read_split (isDigit_of_mem_zeros_append zeros digits)
      ((List.replicate zeros '0' ++ Nat.toDigits 10 digits).length - (-exponent).toNat)
    rw [hfigures, hplaces, Nat.ofDigitChars_append, Nat.ofDigitChars_replicate_zero, Nat.mul_zero,
      Nat.ofDigitChars_ten_toDigits, Int.toNat_of_nonpos (by omega)]
    refine ⟨(Nat.mul_one _).symm, ?_⟩
    rw [List.length_append, List.length_replicate]
    omega

theorem isDigit_or_point_of_mem_positional {digits : Nat} {exponent : Int} {c : Char}
    (h : c ∈ positional digits exponent) : c.isDigit = true ∨ c = '.' := by
  unfold positional at h
  dsimp only at h
  split_ifs at h
  · exact .inl (isDigit_of_mem_toDigits_append _ _ c h)
  · rcases List.mem_append.mp h with hwhole | hrest
    · exact .inl (isDigit_of_mem_zeros_append _ _ c (List.mem_of_mem_take hwhole))
    · rcases List.mem_cons.mp hrest with hpoint | hplaces
      · exact .inr hpoint
      · exact .inl (isDigit_of_mem_zeros_append _ _ c (List.mem_of_mem_drop hplaces))

/-- Decimals of one text lie in the same intervals: they have the same figures and places. -/
theorem isDecimalOf_of_positional_eq {F : BinaryFormat} {d d' : Nat} {e e' : Int} {code : Nat}
    (h : positional d e = positional d' e') (decimal : F.IsDecimalOf d e code) :
    F.IsDecimalOf d' e' code := by
  obtain ⟨hfigures, hplaces⟩ := read_positional d e
  obtain ⟨hfigures', hplaces'⟩ := read_positional d' e'
  rw [h, hfigures'] at hfigures
  rw [h, hplaces'] at hplaces
  rw [BinaryFormat.IsDecimalOf, Nat.mul_left_comm] at decimal ⊢
  rwa [hfigures, hplaces]

/-! ### Texts of numbers -/

namespace Binary

variable {F : BinaryFormat}

theorem exists_magnitudeText_eq (F : BinaryFormat) (code : Nat) :
    ∃ digits exponent,
      magnitudeText F code = positional digits exponent ∧ F.IsDecimalOf digits exponent code := by
  unfold magnitudeText
  split_ifs with h
  · subst h
    exact ⟨0, 0, rfl, F.isDecimalOf_zero⟩
  · exact ⟨_, _, rfl, F.isDecimalOf_shortest (Nat.pos_of_ne_zero h)⟩

/-- Different magnitudes have different texts. -/
theorem magnitudeText_injective (F : BinaryFormat) : Function.Injective (magnitudeText F) := by
  intro a b h
  obtain ⟨d, e, htext, hdecimal⟩ := exists_magnitudeText_eq F a
  obtain ⟨d', e', htext', hdecimal'⟩ := exists_magnitudeText_eq F b
  rw [htext, htext'] at h
  have hshared := isDecimalOf_of_positional_eq h hdecimal
  exact RoundingInterval.eq_of_holds (Nat.pow_pos (by decide)) hshared hdecimal'

theorem not_mem_magnitudeText {code : Nat} {c : Char} (hdigit : c.isDigit = false)
    (hpoint : c ≠ '.') : c ∉ magnitudeText F code := by
  intro h
  obtain ⟨digits, exponent, htext, -⟩ := exists_magnitudeText_eq F code
  rw [htext] at h
  rcases isDigit_or_point_of_mem_positional h with hc | hc
  · rw [hdigit] at hc
    cases hc
  · exact hpoint hc

theorem toList_text_finite (negative : Bool) (code : Fin F.infinityCode) :
    (finite negative code).text.toList = (if negative then ['-'] else []) ++ magnitudeText F code :=
  String.toList_ofList

/-- The texts of finite numbers are those without the letters of NaN and infinity. -/
theorem isFinite_iff_text {x : Binary F} :
    x.isFinite = true ↔ 'N' ∉ x.text.toList ∧ 'i' ∉ x.text.toList := by
  cases x with
  | nan => simp [isFinite, text]
  | inf negative => cases negative <;> simp [isFinite, text]
  | finite negative code =>
    have hN : 'N' ∉ magnitudeText F code := not_mem_magnitudeText (by decide) (by decide)
    have hi : 'i' ∉ magnitudeText F code := not_mem_magnitudeText (by decide) (by decide)
    rw [toList_text_finite]
    cases negative <;> simp [isFinite, hN, hi]

/-- A sign can be told from what follows it if no sign can follow. -/
theorem sign_append_inj {m n : Bool} {rest rest' : List Char} (unsigned : '-' ∉ rest)
    (unsigned' : '-' ∉ rest')
    (h : (if m then ['-'] else []) ++ rest = (if n then ['-'] else []) ++ rest') :
    m = n ∧ rest = rest' := by
  cases m <;> cases n
  · exact ⟨rfl, h⟩
  · obtain rfl : rest = '-' :: rest' := h
    exact absurd List.mem_cons_self unsigned
  · obtain rfl : '-' :: rest = rest' := h
    exact absurd List.mem_cons_self unsigned'
  · exact ⟨rfl, (List.cons.inj h).2⟩

/-- Different numbers have different texts. -/
theorem text_injective : Function.Injective (text : Binary F → String) := by
  intro x y h
  have hfinite : x.isFinite = true ↔ y.isFinite = true := by
    rw [isFinite_iff_text, isFinite_iff_text, h]
  cases x with
  | nan =>
    cases y with
    | nan => rfl
    | inf n => cases n <;> simp [text] at h
    | finite => simp [isFinite] at hfinite
  | inf m =>
    cases y with
    | nan => cases m <;> simp [text] at h
    | inf n => cases m <;> cases n <;> simp [text] at h ⊢
    | finite => simp [isFinite] at hfinite
  | finite m a =>
    cases y with
    | nan => simp [isFinite] at hfinite
    | inf => simp [isFinite] at hfinite
    | finite n b =>
      have hminus {code : Nat} : '-' ∉ magnitudeText F code :=
        not_mem_magnitudeText (by decide) (by decide)
      have hlists := congrArg String.toList h
      rw [toList_text_finite, toList_text_finite] at hlists
      obtain ⟨rfl, hmagnitudes⟩ := sign_append_inj hminus hminus hlists
      rw [Fin.ext (magnitudeText_injective F hmagnitudes)]

/-- The two zeros are told apart by the sign. -/
example : (ofCode false 0 : Single).text = "0" ∧ (ofCode true 0 : Single).text = "-0" := by
  decide +kernel

end Binary

end MotionControl
