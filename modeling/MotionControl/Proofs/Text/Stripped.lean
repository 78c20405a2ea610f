import Mathlib
import MotionControl.Text.Blank

/-!
# White space at the ends, and the case of letters

A text stripped of white space is what stands between the white space at its two ends and neither
begins nor ends with white space itself (`Stripped`). There is exactly one such text, and trimming
finds it (`stripped_iff`), whatever white space is added or taken away at the ends
(`trimBlank_append`) and whatever the ASCII case of the letters (`SameUpToCase.trimBlank`).
-/

set_option autoImplicit false
set_option relaxedAutoImplicit false

namespace MotionControl

/-! ### White space at the ends -/

/-- The core is the text without the white space at its two ends. -/
structure Stripped (text core : List Char) : Prop where
  split : ∃ lead trail, text = lead ++ core ++ trail ∧ (∀ c ∈ lead, isBlank c = true) ∧
    ∀ c ∈ trail, isBlank c = true
  head : ∀ c, core.head? = some c → isBlank c = false
  last : ∀ c, core.getLast? = some c → isBlank c = false

/-- White space at the ends of a text is trimmed with the rest of it. -/
theorem trimBlank_append {lead trail : List Char} (text : List Char)
    (leading : ∀ c ∈ lead, isBlank c = true) (trailing : ∀ c ∈ trail, isBlank c = true) :
    trimBlank (lead ++ text ++ trail) = trimBlank text := by
  unfold trimBlank
  rw [List.append_assoc, List.dropWhile_append_of_pos leading, List.dropWhile_append]
  split_ifs with hblank
  · rw [List.isEmpty_iff.mp hblank, List.dropWhile_eq_nil_iff.mpr trailing]
  · rw [List.reverse_append, List.dropWhile_append_of_pos (by simpa using trailing)]

theorem dropWhile_isBlank_of_head? {text : List Char}
    (head : ∀ c, text.head? = some c → isBlank c = false) : text.dropWhile isBlank = text := by
  cases text with
  | nil => rfl
  | cons c rest => exact List.dropWhile_cons_of_neg (by simp [head c rfl])

theorem isBlank_of_head?_dropWhile (text : List Char) {c : Char}
    (h : (text.dropWhile isBlank).head? = some c) : isBlank c = false := by
  simpa [h] using List.head?_dropWhile_not isBlank text

theorem stripped_trimBlank (text : List Char) : Stripped text (trimBlank text) := by
  have hrest : text.dropWhile isBlank =
      trimBlank text ++ (text.dropWhile isBlank).rtakeWhile isBlank :=
    List.rdropWhile_append_rtakeWhile.symm
  refine ⟨⟨text.takeWhile isBlank, (text.dropWhile isBlank).rtakeWhile isBlank, ?_,
    fun _ ↦ List.mem_takeWhile_imp, fun _ ↦ List.mem_rtakeWhile_imp⟩, fun c hc ↦ ?_,
    fun c hc ↦ ?_⟩
  · rw [List.append_assoc, ← hrest, List.takeWhile_append_dropWhile]
  · refine isBlank_of_head?_dropWhile text ?_
    rw [hrest, List.head?_append, hc, Option.some_or]
  · rw [trimBlank, List.getLast?_reverse] at hc
    exact isBlank_of_head?_dropWhile _ hc

/-- Trimming finds the one text that a text is when stripped. -/
theorem stripped_iff {text core : List Char} : Stripped text core ↔ trimBlank text = core := by
  constructor
  · rintro ⟨⟨lead, trail, rfl, leading, trailing⟩, head, last⟩
    have hreverse : core.reverse.dropWhile isBlank = core.reverse :=
      dropWhile_isBlank_of_head? fun c hc ↦ last c (List.head?_reverse ▸ hc)
    rw [trimBlank_append core leading trailing, trimBlank, dropWhile_isBlank_of_head? head,
      hreverse, List.reverse_reverse]
  · rintro rfl
    exact stripped_trimBlank text

/-! ### The case of letters -/

/-- Two texts differ in the ASCII case of their letters at most. -/
def SameUpToCase (text other : List Char) : Prop :=
  List.Forall₂ (fun c d ↦ c.beqCaseInsensitiveAsciiOnly d = true) text other

theorem beqCaseInsensitiveAsciiOnly_iff_toUpper {c d : Char} :
    c.beqCaseInsensitiveAsciiOnly d = true ↔ c.toUpper = d.toUpper := by
  rw [Char.beqCaseInsensitiveAsciiOnly, beq_iff_eq]
  constructor
  · intro h
    calc c.toUpper = c.toLower.toUpper := (Char.toUpper_toLower_eq_toUpper c).symm
      _ = d.toLower.toUpper := congrArg Char.toUpper h
      _ = d.toUpper := Char.toUpper_toLower_eq_toUpper d
  · intro h
    calc c.toLower = c.toUpper.toLower := (Char.toLower_toUpper_eq_toLower c).symm
      _ = d.toUpper.toLower := congrArg Char.toLower h
      _ = d.toLower := Char.toLower_toUpper_eq_toLower d

theorem sameUpToCase_iff {text other : List Char} :
    SameUpToCase text other ↔ text.map Char.toUpper = other.map Char.toUpper := by
  simp only [SameUpToCase, beqCaseInsensitiveAsciiOnly_iff_toUpper]
  rw [← List.forall₂_eq_eq_eq, List.forall₂_map_left_iff, List.forall₂_map_right_iff]

/-- No letter is white space, in either case. -/
theorem isBlank_toUpper (c : Char) : isBlank c.toUpper = isBlank c := by
  by_cases h : c.isLower = true
  · have hrange : 97 ≤ c.toNat ∧ c.toNat ≤ 122 := by
      simpa [Char.isLower, UInt32.le_iff_toNat_le] using h
    have hupper : c.toUpper.toNat = c.toNat - 32 := by
      rw [Char.toUpper_eq_of_isLower h, Char.toNat_ofNat, if_pos (.inl (by omega))]
    have hletter : ∀ d : Char, 65 ≤ d.toNat → d.toNat ≤ 122 → isBlank d = false := by
      intro d hlow hhigh
      simp only [isBlank]
      grind
    rw [hletter c (by omega) (by omega), hletter c.toUpper (by omega) (by omega)]
  · rw [Char.toUpper_eq_of_not_isLower h]

/-- Upper case letters are trimmed as the letters themselves. -/
theorem trimBlank_map_toUpper (text : List Char) :
    trimBlank (text.map Char.toUpper) = (trimBlank text).map Char.toUpper := by
  have hblank : isBlank ∘ Char.toUpper = isBlank := funext isBlank_toUpper
  rw [trimBlank, List.dropWhile_map, hblank, ← List.map_reverse, List.dropWhile_map, hblank,
    ← List.map_reverse]
  rfl

theorem SameUpToCase.trimBlank {text other : List Char} (h : SameUpToCase text other) :
    SameUpToCase (trimBlank text) (trimBlank other) := by
  rw [sameUpToCase_iff] at h ⊢
  rw [← trimBlank_map_toUpper, ← trimBlank_map_toUpper, h]

end MotionControl
