import Mathlib
import MotionControl.Proofs.Letters.Resolution
import MotionControl.Proofs.Text.Bounded

/-!
# Sets of axes as texts and back

Rendering a set of axes and resolving a text of letters undo each other, as far as each loses
nothing (`resolves_letters`). A rendered set resolves to its axes below the length of the table,
also when the case of its ASCII letters is lost on the way, provided that its letters fit the
bounded text. And for a table that fits as a whole, what any text resolves to is rendered as the
letters of the table that occur in the text up to case, in the order of the table.

The table has to be one that resolution can find its letters in (`Distinguishes`): its letters are
distinct, and none is an ASCII lower case letter, because letters are compared in upper case.
-/

set_option autoImplicit false
set_option relaxedAutoImplicit false

namespace MotionControl

/-- A table of distinct letters without ASCII lower case. -/
structure Distinguishes (table : List Char) : Prop where
  nodup : table.Nodup
  not_isLower : ∀ letter ∈ table, letter.isLower = false

theorem Distinguishes.toUpper {table : List Char} (distinguishes : Distinguishes table)
    {letter : Char} (h : letter ∈ table) : letter.toUpper = letter :=
  Char.toUpper_eq_of_not_isLower (by simp [distinguishes.not_isLower letter h])

/-! ### Rendering -/

namespace AxisMask

variable {table : List Char} {mask : AxisMask}

theorem toList_letters (h : String.utf8Len (mask.fullLetters table) ≤ maxAxes) :
    (mask.letters table).toList = mask.fullLetters table := by
  rw [letters, fitting_of_le h, String.toList_ofList]

theorem mem_fullLetters {letter : Char} :
    letter ∈ mask.fullLetters table ↔
      ∃ axis, mask.contains axis = true ∧ table[axis]? = some letter := by
  simp [fullLetters, List.mem_zipIdx_iff_getElem?, and_comm]

/-- If the axes of a set are chosen by their letters, so are the letters. -/
theorem fullLetters_eq_filter {chosen : Char → Bool}
    (h : ∀ axis letter, table[axis]? = some letter → mask.contains axis = chosen letter) :
    mask.fullLetters table = table.filter chosen := by
  calc mask.fullLetters table
      = (table.zipIdx.filter fun entry ↦ chosen entry.1).map Prod.fst := by
        refine congrArg _ (List.filter_congr fun entry hentry ↦ ?_)
        exact h entry.2 entry.1 (List.mem_zipIdx_iff_getElem?.mp hentry)
    _ = (table.zipIdx.map Prod.fst).filter chosen := List.filter_map.symm
    _ = table.filter chosen := by rw [List.zipIdx_map_fst]

end AxisMask

/-! ### Resolving a rendered set -/

namespace Resolution

variable {table : List Char}

/-- The letters of a set of axes, spelled in any case, resolve to the axes of the set that have a
letter. -/
theorem resolves_spelled (nodup : table.Nodup) (mask : AxisMask) (spelling : Char → Char)
    (upper : ∀ letter ∈ table, (spelling letter).toUpper = letter) :
    (ofText table ((mask.fullLetters table).map spelling)).isValid = true ∧
      (ofText table ((mask.fullLetters table).map spelling)).mask =
        mask.inter (.below table.length) := by
  have hnamed {axis : Nat} {letter : Char} (h : table[axis]? = some letter) (other : Nat) :
      axisOf? table (spelling letter) = some other ↔ axis = other := by
    obtain ⟨hlt, -⟩ := List.getElem?_eq_some_iff.mp h
    rw [axisOf?_eq_some_iff_of_nodup nodup, upper letter (List.mem_of_getElem? h), ← h]
    exact ⟨fun heq ↦ (List.getElem?_inj hlt nodup).mp heq.symm, fun heq ↦ heq ▸ rfl⟩
  constructor
  · rw [isValid_ofText_iff]
    intro spelled hspelled
    obtain ⟨letter, hletter, rfl⟩ := List.mem_map.mp hspelled
    obtain ⟨axis, -, hentry⟩ := AxisMask.mem_fullLetters.mp hletter
    exact ⟨axis, (hnamed hentry axis).mpr rfl⟩
  · refine AxisMask.ext_contains fun axis ↦ ?_
    rw [contains_ofText, AxisMask.contains_inter, AxisMask.contains_below]
    simp only [Bool.and_eq_true, decide_eq_true_iff]
    constructor
    · rintro ⟨hwidth, spelled, hspelled, hfound⟩
      obtain ⟨letter, hletter, rfl⟩ := List.mem_map.mp hspelled
      obtain ⟨held, hheld, hentry⟩ := AxisMask.mem_fullLetters.mp hletter
      obtain rfl := (hnamed hentry axis).mp hfound
      exact ⟨hheld, hwidth, (List.getElem?_eq_some_iff.mp hentry).1⟩
    · rintro ⟨hheld, hwidth, hlt⟩
      have hentry : table[axis]? = some table[axis] := List.getElem?_eq_getElem hlt
      refine ⟨hwidth, spelling table[axis], List.mem_map_of_mem ?_, (hnamed hentry axis).mpr rfl⟩
      exact AxisMask.mem_fullLetters.mpr ⟨axis, hheld, hentry⟩

/-! ### Rendering a resolved text -/

/-- Whether a letter occurs in a text, whatever the ASCII case of either. -/
def occurs (text : List Char) (letter : Char) : Bool :=
  text.any fun written ↦ written.beqCaseInsensitiveAsciiOnly letter

/-- A letter is in upper case what another is in upper case already, if they differ in case at
most. -/
theorem beqCaseInsensitiveAsciiOnly_iff {written letter : Char} (upper : letter.toUpper = letter) :
    written.beqCaseInsensitiveAsciiOnly letter = true ↔ written.toUpper = letter := by
  rw [Char.beqCaseInsensitiveAsciiOnly, beq_iff_eq]
  constructor
  · intro h
    calc written.toUpper = written.toLower.toUpper := (Char.toUpper_toLower_eq_toUpper _).symm
      _ = letter.toLower.toUpper := congrArg Char.toUpper h
      _ = letter := (Char.toUpper_toLower_eq_toUpper _).trans upper
  · rintro rfl
    exact (Char.toLower_toUpper_eq_toLower _).symm

theorem length_le_utf8Len (text : List Char) : text.length ≤ String.utf8Len text := by
  induction text with
  | nil => exact Nat.zero_le _
  | cons letter text ih =>
    rw [List.length_cons, String.utf8Len_cons]
    exact Nat.add_le_add ih letter.utf8Size_pos

/-- The axes that a text resolves to are those whose letters occur in it. -/
theorem contains_ofText_of_occurs (distinguishes : Distinguishes table)
    (small : table.length ≤ 8) (text : List Char) {axis : Nat} {letter : Char}
    (h : table[axis]? = some letter) :
    (ofText table text).mask.contains axis = occurs text letter := by
  obtain ⟨hlt, -⟩ := List.getElem?_eq_some_iff.mp h
  have hupper := distinguishes.toUpper (List.mem_of_getElem? h)
  rw [Bool.eq_iff_iff, contains_ofText, occurs, List.any_eq_true, and_iff_right (by omega)]
  refine exists_congr fun written ↦ and_congr_right fun _ ↦ ?_
  rw [axisOf?_eq_some_iff_of_nodup distinguishes.nodup, h, Option.some_inj,
    beqCaseInsensitiveAsciiOnly_iff hupper]
  exact eq_comm

/-- A text names only axes that have a letter. -/
theorem inter_below_ofText (text : List Char) :
    (ofText table text).mask.inter (.below table.length) = (ofText table text).mask := by
  refine AxisMask.ext_contains fun axis ↦ ?_
  rw [AxisMask.contains_inter, AxisMask.contains_below]
  simp only [Bool.and_eq_true, decide_eq_true_iff, and_iff_left_iff_imp]
  intro h
  obtain ⟨hwidth, letter, -, hfound⟩ := (contains_ofText text axis).mp h
  exact ⟨hwidth, (List.getElem?_eq_some_iff.mp (axisOf?_eq_some_iff.mp hfound).1).1⟩

end Resolution

/-- A text of letters gives a set of axes, and none of its letters is unknown. -/
def ResolvesTo (table : List Char) (text : String) (mask : AxisMask) : Prop :=
  (Resolution.ofText table text.toList).isValid = true ∧
    (Resolution.ofText table text.toList).mask = mask

/-- Over a table that distinguishes its letters, a set of axes whose letters fit is rendered as a
text that resolves to its axes below the length of the table, in lower case too. If the whole table
fits, what a text resolves to is rendered as the letters of the table that occur in the text, and
that text resolves to the same set again. -/
theorem resolves_letters {table : List Char} (distinguishes : Distinguishes table) :
    (∀ mask : AxisMask, (String.ofList (mask.fullLetters table)).utf8ByteSize ≤ maxAxes →
      ResolvesTo table (mask.letters table) (mask.inter (.below table.length)) ∧
      ResolvesTo table ((mask.letters table).map Char.toLower) (mask.inter (.below table.length))) ∧
    ((String.ofList table).utf8ByteSize ≤ maxAxes → ∀ text : String,
      (((Resolution.ofText table text.toList).mask.letters table).toList =
        table.filter (Resolution.occurs text.toList)) ∧
      ResolvesTo table ((Resolution.ofText table text.toList).mask.letters table)
        (Resolution.ofText table text.toList).mask) := by
  simp only [String.utf8ByteSize_ofList]
  constructor
  · intro mask hfits
    unfold ResolvesTo
    rw [String.toList_map, AxisMask.toList_letters hfits]
    have hasWritten := Resolution.resolves_spelled distinguishes.nodup mask id
      fun letter hletter ↦ distinguishes.toUpper hletter
    have hlowered := Resolution.resolves_spelled distinguishes.nodup mask Char.toLower
      fun letter hletter ↦ (Char.toUpper_toLower_eq_toUpper letter).trans
        (distinguishes.toUpper hletter)
    rw [List.map_id] at hasWritten
    exact ⟨hasWritten, hlowered⟩
  · intro hfits text
    have hlength : table.length ≤ 6 := (Resolution.length_le_utf8Len table).trans hfits
    have hletters : (Resolution.ofText table text.toList).mask.fullLetters table =
        table.filter (Resolution.occurs text.toList) :=
      AxisMask.fullLetters_eq_filter fun axis letter h ↦
        Resolution.contains_ofText_of_occurs distinguishes (by omega) text.toList h
    have hsmall : String.utf8Len ((Resolution.ofText table text.toList).mask.fullLetters table) ≤
        maxAxes := by
      rw [hletters]
      exact (String.utf8Len_le_of_sublist List.filter_sublist).trans hfits
    -- A text names no axis without a letter, so nothing is lost below the length of the table.
    have hbelow : (Resolution.ofText table text.toList).mask.inter (.below table.length) =
        (Resolution.ofText table text.toList).mask :=
      Resolution.inter_below_ofText text.toList
    have hagain := Resolution.resolves_spelled distinguishes.nodup
      (Resolution.ofText table text.toList).mask id fun letter hletter ↦
        distinguishes.toUpper hletter
    rw [List.map_id, hbelow] at hagain
    unfold ResolvesTo
    rw [AxisMask.toList_letters hsmall]
    exact ⟨hletters, hagain⟩

/-- Three letters of one, two and three bytes. -/
def sixByteTable : List Char := ['X', 'É', '€']

/-- A set with an axis beyond the table is rendered without it; a text with a repeated letter and an
unknown character is rendered as its letters. -/
theorem resolves_letters_sixByteTable :
    Distinguishes sixByteTable ∧ AxisMask.letters sixByteTable ⟨0b10110⟩ = "É€" ∧
      ResolvesTo sixByteTable "É€" ⟨0b00110⟩ ∧
      ((Resolution.ofText sixByteTable "x€?x".toList).mask.letters sixByteTable).toList =
        ['X', '€'] := by
  have distinguishes : Distinguishes sixByteTable :=
    ⟨by decide, by simp [sixByteTable, Char.isLower]⟩
  have hletters : AxisMask.letters sixByteTable ⟨0b10110⟩ = "É€" := by decide
  have hroundTrip := resolves_letters distinguishes
  have hset := (hroundTrip.1 ⟨0b10110⟩ (by decide)).1
  have htext := (hroundTrip.2 (by decide) "x€?x").1
  rw [hletters] at hset
  exact ⟨distinguishes, hletters, hset, htext⟩

end MotionControl
