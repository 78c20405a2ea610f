import Mathlib.Data.List.Induction
import MotionControl.Letters
import MotionControl.Proofs.Mask.Axis

/-!
# What a text of letters resolves to

A text is resolved letter by letter, and what comes of it depends on each letter alone: the mask
holds the axes that its letters name (`Resolution.contains_ofText`), and what is kept as invalid are
the first of the letters that name none (`Resolution.invalid_ofText`). A letter names the first axis
of the table whose entry is its upper case (`Resolution.axisOf?_eq_some_iff`).

Together this says what a resolution is in terms of the table and the text alone
(`Resolution.Faithful`), for tables with repeated entries and with more entries than a mask has bits
too. The mask depends neither on the order of the letters nor on how the text is divided
(`Resolution.ofText_faithful`).
-/

set_option autoImplicit false
set_option relaxedAutoImplicit false

namespace MotionControl.Resolution

variable {table : List Char}

theorem axisOf?_eq_some_iff {letter : Char} {axis : Nat} :
    axisOf? table letter = some axis ↔
      table[axis]? = some letter.toUpper ∧
        ∀ earlier < axis, table[earlier]? ≠ some letter.toUpper := by
  rw [axisOf?, List.findIdx?_eq_some_iff_getElem]
  constructor
  · rintro ⟨hlt, hentry, hfirst⟩
    refine ⟨List.getElem?_eq_some_iff.mpr ⟨hlt, beq_iff_eq.mp hentry⟩, fun earlier hearlier h ↦ ?_⟩
    obtain ⟨_, hsame⟩ := List.getElem?_eq_some_iff.mp h
    exact hfirst earlier hearlier (beq_iff_eq.mpr hsame)
  · rintro ⟨hentry, hfirst⟩
    obtain ⟨hlt, hsame⟩ := List.getElem?_eq_some_iff.mp hentry
    refine ⟨hlt, beq_iff_eq.mpr hsame, fun earlier hearlier h ↦ hfirst earlier hearlier ?_⟩
    exact List.getElem?_eq_some_iff.mpr ⟨Nat.lt_trans hearlier hlt, beq_iff_eq.mp h⟩

/-- In a table of distinct letters every entry is the first of its kind. -/
theorem axisOf?_eq_some_iff_of_nodup (nodup : table.Nodup) {letter : Char} {axis : Nat} :
    axisOf? table letter = some axis ↔ table[axis]? = some letter.toUpper := by
  rw [axisOf?_eq_some_iff, and_iff_left_iff_imp]
  intro hentry earlier hearlier h
  obtain ⟨hlt, -⟩ := List.getElem?_eq_some_iff.mp hentry
  exact Nat.ne_of_lt hearlier
    ((List.getElem?_inj (Nat.lt_trans hearlier hlt) nodup).mp (h.trans hentry.symm))

/-- A letter names no axis if its upper case is not in the table. -/
theorem isNone_axisOf? (letter : Char) :
    (axisOf? table letter).isNone = decide (letter.toUpper ∉ table) := by
  rw [Bool.eq_iff_iff, Option.isNone_iff_eq_none, axisOf?, List.findIdx?_eq_none_iff,
    decide_eq_true_iff]
  constructor
  · exact fun h hmem ↦ absurd (h letter.toUpper hmem) (by simp)
  · exact fun h entry hentry ↦ beq_false_of_ne fun heq ↦ h (heq ▸ hentry)

theorem ofText_concat (text : List Char) (letter : Char) :
    ofText table (text ++ [letter]) = push table (ofText table text) letter := by
  simp [ofText]

/-- The mask holds the axes that the letters name, as far as it is wide enough. -/
theorem contains_ofText (text : List Char) (axis : Nat) :
    (ofText table text).mask.contains axis = true ↔
      axis < 8 ∧ ∃ letter ∈ text, axisOf? table letter = some axis := by
  induction text using List.reverseRecOn with
  | nil => simp [ofText, empty]
  | append_singleton text letter ih =>
    rw [ofText_concat, push]
    cases h : axisOf? table letter with
    | none => simp [h, ih]
    | some named => simp [h, ih, AxisMask.contains_insert, or_and_right, and_or_left, exists_or]

/-- The letters that name no axis are kept in order until there is no more room. -/
theorem invalid_ofText (text : List Char) :
    (ofText table text).invalid =
      (text.filter fun letter ↦ (axisOf? table letter).isNone).take maxInvalidLetters := by
  induction text using List.reverseRecOn with
  | nil => rfl
  | append_singleton text letter ih =>
    rw [ofText_concat, push, List.filter_append]
    cases h : axisOf? table letter with
    | some named => simp [h, ih]
    | none =>
      have hkept : [letter].filter (fun letter ↦ (axisOf? table letter).isNone) = [letter] := by
        simp [h]
      rw [hkept]
      dsimp only
      rw [ih, List.length_take, List.take_append]
      split
      next hroom =>
        rw [List.take_of_length_le (show [letter].length ≤ _ by simp; omega)]
      next hfull =>
        rw [Nat.sub_eq_zero_of_le (by omega), List.take_zero, List.append_nil]

/-- Every letter that names no axis is reported, in order. -/
theorem log_ofText (text : List Char) :
    (ofText table text).log =
      (text.filter fun letter ↦ (axisOf? table letter).isNone).map LogEntry.unknownLetter := by
  induction text using List.reverseRecOn with
  | nil => rfl
  | append_singleton text letter ih =>
    rw [ofText_concat, push, List.filter_append, List.map_append]
    cases h : axisOf? table letter with
    | some named => simp [h, ih]
    | none => simp [h, ih]

theorem isValid_ofText_iff (text : List Char) :
    (ofText table text).isValid = true ↔
      ∀ letter ∈ text, ∃ axis, axisOf? table letter = some axis := by
  rw [isValid, List.isEmpty_iff, invalid_ofText, List.take_eq_nil_iff]
  simp [maxInvalidLetters, List.filter_eq_nil_iff, Option.ne_none_iff_exists']

/-! ### The whole resolution -/

/-- The letters of a text that are not in the table in upper case, as they were written. -/
def unknownLetters (table text : List Char) : List Char :=
  text.filter fun letter ↦ letter.toUpper ∉ table

/-- What a resolution is that does justice to each letter of a text. -/
structure Faithful (table text : List Char) (resolution : Resolution) : Prop where
  /-- Of equal entries of the table only the first counts. -/
  mask : ∀ axis, resolution.mask.bits.getLsbD axis = true ↔
    axis < 8 ∧ ∃ letter ∈ text, table[axis]? = some letter.toUpper ∧
      ∀ earlier < axis, table[earlier]? ≠ some letter.toUpper
  invalid : resolution.invalid = (unknownLetters table text).take 8
  isValid : resolution.isValid = true ↔ ∀ letter ∈ text, letter.toUpper ∈ table
  /-- The log is not bounded. -/
  log : resolution.log = (unknownLetters table text).map LogEntry.unknownLetter
  errors : ∀ entry ∈ resolution.log, entry.level = .error

/-- Whatever the table, a text resolves to what its letters say one by one, and the mask of a text
is the union of the masks of its parts, in whatever order its letters stand. -/
theorem ofText_faithful (table : List Char) :
    (∀ text, Faithful table text (ofText table text)) ∧
      (∀ first second, (ofText table (first ++ second)).mask =
        (ofText table first).mask.union (ofText table second).mask) ∧
      ∀ first second : List Char, first.Perm second →
        (ofText table first).mask = (ofText table second).mask := by
  have hunknown (text : List Char) :
      text.filter (fun letter ↦ (axisOf? table letter).isNone) = unknownLetters table text :=
    List.filter_congr fun letter _ ↦ isNone_axisOf? letter
  refine ⟨fun text ↦ ?_, fun first second ↦ ?_, fun first second permuted ↦ ?_⟩
  · constructor
    case mask =>
      intro axis
      rw [← AxisMask.contains_eq_getLsbD, contains_ofText]
      simp only [axisOf?_eq_some_iff]
    case invalid => rw [invalid_ofText, hunknown, maxInvalidLetters]
    case isValid =>
      rw [isValid_ofText_iff]
      refine forall₂_congr fun letter _ ↦ ?_
      rw [← Option.isSome_iff_exists, ← Option.not_isNone, isNone_axisOf?]
      simp
    case log => rw [log_ofText, hunknown]
    case errors =>
      intro entry hentry
      rw [log_ofText] at hentry
      obtain ⟨letter, -, rfl⟩ := List.mem_map.mp hentry
      rfl
  · refine AxisMask.ext_contains fun axis ↦ ?_
    rw [AxisMask.contains_union, Bool.or_eq_true]
    simp only [contains_ofText, List.mem_append, or_and_right, exists_or, and_or_left]
  · refine AxisMask.ext_contains fun axis ↦ ?_
    rw [contains_ofText, contains_ofText]
    simp only [permuted.mem_iff]

/-- Nine letters, of which the third repeats the first and the last is beyond the mask. -/
def wideTable : List Char := ['X', 'Y', 'X', 'Z', 'A', 'B', 'C', 'U', 'V']

/-- A letter beyond the mask sets no bit and is no invalid letter either. -/
theorem ofText_faithful_wideTable :
    ['x', 'V', 'z', 'ü', '?'].Perm ['?', 'z', 'x', 'ü', 'V'] ∧
      Faithful wideTable ['x', 'V', 'z', 'ü', '?'] (ofText wideTable ['x', 'V', 'z', 'ü', '?']) ∧
      (ofText wideTable ['x', 'V', 'z', 'ü', '?']).mask = ⟨0b1001⟩ ∧
      (ofText wideTable ['x', 'V', 'z', 'ü', '?']).invalid = ['ü', '?'] ∧
      (ofText wideTable ['?', 'z', 'x', 'ü', 'V']).mask = ⟨0b1001⟩ := by
  have permuted : ['x', 'V', 'z', 'ü', '?'].Perm ['?', 'z', 'x', 'ü', 'V'] := by decide
  have hmask : (ofText wideTable ['x', 'V', 'z', 'ü', '?']).mask = ⟨0b1001⟩ := by decide
  have hfaithful := ofText_faithful wideTable
  exact ⟨permuted, hfaithful.1 _, hmask, by decide, (hfaithful.2.2 _ _ permuted).symm.trans hmask⟩

end MotionControl.Resolution
