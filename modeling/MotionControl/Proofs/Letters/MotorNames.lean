import Mathlib.Data.List.Intervals
import MotionControl.Letters
import MotionControl.Proofs.Mask.Motor
import MotionControl.Proofs.Text.Bounded

/-!
# Sets of motors as texts

A set of motors is rendered as words, each after a space: for each bit of the primary range with a
letter that letter, and then for each bit of the secondary range with a letter that letter and the
digit two (`MotorMask.words`). The text never exceeds its capacity, and takes all words if they fit
(`Rendered`).

For a table that is `Legible` they always fit, and since no letter is a space the words can be taken
apart again. So two sets have the same text exactly if they have the same motors as far as there are
letters (`MotorMask.letters_rendered`).
-/

set_option autoImplicit false
set_option relaxedAutoImplicit false

namespace MotionControl

/-! ### Words after spaces -/

/-- Words in one text, each after a space. -/
def spaced (words : List (List Char)) : List Char := words.flatMap (' ' :: ·)

theorem spaced_cons (word : List Char) (words : List (List Char)) :
    spaced (word :: words) = ' ' :: word ++ spaced words := rfl

theorem spaced_append (first second : List (List Char)) :
    spaced (first ++ second) = spaced first ++ spaced second :=
  List.flatMap_append

theorem intercalate_cons (first : List Char) (words : List (List Char)) :
    [' '].intercalate (first :: words) = first ++ spaced words := by
  induction words generalizing first with
  | nil => simp [spaced]
  | cons word words ih =>
    rw [List.intercalate_cons_cons, ih, spaced_cons, List.append_assoc]
    rfl

/-- Words without a space can be taken apart again. -/
theorem splitOn_spaced {words : List (List Char)} (h : ∀ word ∈ words, ' ' ∉ word) :
    (spaced words).splitOn ' ' = [] :: words := by
  have hwords : ∀ word ∈ [] :: words, ' ' ∉ word := List.forall_mem_cons.mpr ⟨List.not_mem_nil, h⟩
  have hsplit := List.splitOn_intercalate ' ' hwords (List.cons_ne_nil _ _)
  rwa [intercalate_cons, List.nil_append] at hsplit

theorem utf8Len_spaced_le {words : List (List Char)} {size : Nat}
    (h : ∀ word ∈ words, String.utf8Len word < size) :
    String.utf8Len (spaced words) ≤ size * words.length := by
  induction words with
  | nil => exact Nat.zero_le _
  | cons word words ih =>
    obtain ⟨hword, hwords⟩ := List.forall_mem_cons.mp h
    have hrest := ih hwords
    have hspace : ' '.utf8Size = 1 := rfl
    rw [spaced_cons, List.cons_append, String.utf8Len_cons, String.utf8Len_append, hspace,
      List.length_cons, Nat.mul_succ]
    omega

namespace MotorMask

variable {table : List Char} {mask : MotorMask}

/-! ### The words of a set -/

/-- The letters of the axes whose bits, counted from a first bit, are set, in ascending order. -/
def lettersFrom (table : List Char) (mask : MotorMask) (firstBit : Nat) : List Char :=
  ((List.range (min 16 table.length)).filter fun axis ↦
    mask.bits.getLsbD (firstBit + axis)).filterMap (table[·]?)

/-- The words for the motors of a set. -/
def words (table : List Char) (mask : MotorMask) : List (List Char) :=
  (mask.lettersFrom table 0).map (fun letter ↦ [letter]) ++
    (mask.lettersFrom table 16).map fun letter ↦ [letter, '2']

theorem mem_lettersFrom {firstBit : Nat} {letter : Char} :
    letter ∈ mask.lettersFrom table firstBit ↔
      ∃ axis < 16, mask.bits.getLsbD (firstBit + axis) = true ∧ table[axis]? = some letter := by
  simp only [lettersFrom, List.mem_filterMap, List.mem_filter, List.mem_range, Nat.lt_min]
  refine exists_congr fun axis ↦ ⟨?_, ?_⟩
  · rintro ⟨⟨⟨hrange, -⟩, hbit⟩, hletter⟩
    exact ⟨hrange, hbit, hletter⟩
  · rintro ⟨hrange, hbit, hletter⟩
    exact ⟨⟨⟨hrange, (List.getElem?_eq_some_iff.mp hletter).1⟩, hbit⟩, hletter⟩

theorem mem_of_mem_lettersFrom {firstBit : Nat} {letter : Char}
    (h : letter ∈ mask.lettersFrom table firstBit) : letter ∈ table := by
  obtain ⟨axis, -, -, hentry⟩ := mem_lettersFrom.mp h
  exact List.mem_of_getElem? hentry

theorem length_lettersFrom_le (table : List Char) (mask : MotorMask) (firstBit : Nat) :
    (mask.lettersFrom table firstBit).length ≤ table.length := by
  calc (mask.lettersFrom table firstBit).length
      ≤ ((List.range (min 16 table.length)).filter fun axis ↦
          mask.bits.getLsbD (firstBit + axis)).length := List.length_filterMap_le ..
    _ ≤ (List.range (min 16 table.length)).length := List.length_filter_le ..
    _ = min 16 table.length := List.length_range
    _ ≤ table.length := Nat.min_le_right ..

/-- The letters of the motors in a slot that are in the set. -/
theorem map_fst_filter_zipIdx (table : List Char) (mask : MotorMask) {slot : Nat}
    (h : slot < slotsPerAxis) :
    (table.zipIdx.filter fun entry ↦ mask.contains ⟨entry.2, slot⟩).map Prod.fst =
      mask.lettersFrom table (16 * slot) := by
  let chosen (axis : Nat) : Bool := mask.contains ⟨axis, slot⟩
  have hchosen (axis : Nat) : chosen axis =
      (mask.bits.getLsbD (16 * slot + axis) && decide (axis < 16)) := by
    have hrange : (⟨axis, slot⟩ : Place).inRange = decide (axis < 16) := by
      rw [Bool.eq_iff_iff, Place.inRange_iff, decide_eq_true_iff, motorRange]
      exact and_iff_left h
    rw [Bool.and_comm, ← hrange, Nat.add_comm]
    rfl
  have hbelow : (List.range table.length).filter (fun axis ↦ decide (axis < 16)) =
      List.range (min 16 table.length) := by
    rw [← List.Ico.zero_bot, List.Ico.filter_lt, Nat.min_comm, List.Ico.zero_bot]
  calc (table.zipIdx.filter fun entry ↦ chosen entry.2).map Prod.fst
      = (table.zipIdx.filter fun entry ↦ chosen entry.2).filterMap fun entry ↦ table[entry.2]? := by
        rw [← List.filterMap_eq_map]
        refine List.filterMap_congr fun entry hentry ↦ ?_
        exact (List.mem_zipIdx_iff_getElem?.mp (List.mem_filter.mp hentry).1).symm
    _ = ((table.zipIdx.map Prod.snd).filter chosen).filterMap (table[·]?) := by
        rw [List.filter_map, List.filterMap_map]
        rfl
    _ = mask.lettersFrom table (16 * slot) := by
        rw [List.zipIdx_map_snd, ← List.range_eq_range', lettersFrom, ← hbelow, List.filter_filter]
        exact congrArg _ (List.filter_congr fun axis _ ↦ hchosen axis)

/-- What is rendered, if there is room, are the words of the set. -/
theorem fullLetters_eq (table : List Char) (mask : MotorMask) :
    mask.fullLetters table = spaced (mask.words table) := by
  have hslot {slot : Nat} (h : slot < slotsPerAxis) (suffix : List Char) :
      (table.zipIdx.filter fun entry ↦ mask.contains ⟨entry.2, slot⟩).flatMap
          (fun entry ↦ ' ' :: entry.1 :: suffix) =
        spaced ((mask.lettersFrom table (16 * slot)).map (· :: suffix)) := by
    rw [← map_fst_filter_zipIdx table mask h, spaced, List.flatMap_map, List.flatMap_map]
  rw [words, spaced_append, fullLetters]
  exact congrArg₂ _ (hslot (by decide) []) (hslot (by decide) ['2'])

/-- If the letters of a table differ, each stands for its own bit. -/
theorem mem_lettersFrom_of_nodup (nodup : table.Nodup) (short : table.length ≤ 16)
    {firstBit axis : Nat} {letter : Char} (h : table[axis]? = some letter) :
    letter ∈ mask.lettersFrom table firstBit ↔ mask.bits.getLsbD (firstBit + axis) = true := by
  obtain ⟨hlt, -⟩ := List.getElem?_eq_some_iff.mp h
  rw [mem_lettersFrom]
  constructor
  · rintro ⟨other, -, hbit, hother⟩
    rwa [(List.getElem?_inj hlt nodup).mp (h.trans hother.symm)]
  · exact fun hbit ↦ ⟨axis, hlt.trans_le short, hbit, h⟩

theorem singleton_mem_words (nodup : table.Nodup) (short : table.length ≤ 16) {axis : Nat}
    {letter : Char} (h : table[axis]? = some letter) :
    [letter] ∈ mask.words table ↔ mask.bits.getLsbD axis = true := by
  have hword : [letter] ∈ mask.words table ↔ letter ∈ mask.lettersFrom table 0 := by simp [words]
  rw [hword, mem_lettersFrom_of_nodup nodup short h, Nat.zero_add]

theorem pair_mem_words (nodup : table.Nodup) (short : table.length ≤ 16) {axis : Nat}
    {letter : Char} (h : table[axis]? = some letter) :
    [letter, '2'] ∈ mask.words table ↔ mask.bits.getLsbD (16 + axis) = true := by
  have hword : [letter, '2'] ∈ mask.words table ↔ letter ∈ mask.lettersFrom table 16 := by
    simp [words]
  rw [hword, mem_lettersFrom_of_nodup nodup short h]

/-- The letters are the same if the bits are. -/
theorem lettersFrom_congr {a b : MotorMask} {firstBit : Nat}
    (h : ∀ axis < table.length, a.bits.getLsbD (firstBit + axis) =
      b.bits.getLsbD (firstBit + axis)) :
    a.lettersFrom table firstBit = b.lettersFrom table firstBit := by
  refine congrArg (List.filterMap _) (List.filter_congr fun axis haxis ↦ h axis ?_)
  exact (List.mem_range.mp haxis).trans_le (Nat.min_le_right ..)

end MotorMask

/-! ### Rendering -/

/-- What the text for a set of motors is, whatever the table. -/
structure Rendered (table : List Char) (mask : MotorMask) (text : String) : Prop where
  bounded : text.utf8ByteSize ≤ 32
  sublist : text.toList.Sublist (spaced (mask.words table))
  whole : (String.ofList (spaced (mask.words table))).utf8ByteSize ≤ 32 →
    text.toList = spaced (mask.words table)

/-- A table of at most six distinct ASCII letters, none of them a space. The digit two may be one of
them. -/
structure Legible (table : List Char) : Prop where
  short : table.length ≤ 6
  nodup : table.Nodup
  ascii : ∀ letter ∈ table, letter.val ≤ 127
  space_notMem : ' ' ∉ table

namespace MotorMask

variable {table : List Char} {mask : MotorMask}

theorem rendered_letters (table : List Char) (mask : MotorMask) :
    Rendered table mask (mask.letters table) := by
  rw [letters, fullLetters_eq]
  constructor
  case bounded =>
    rw [String.utf8ByteSize_ofList]
    exact utf8Len_fitting_le ..
  case sublist =>
    rw [String.toList_ofList]
    exact fitting_sublist ..
  case whole =>
    intro hfits
    rw [String.utf8ByteSize_ofList] at hfits
    rw [String.toList_ofList, motorLettersCapacity, fitting_of_le hfits]

/-- Two words for each letter of a legible table take thirty bytes at most. -/
theorem utf8Len_spaced_words_le (legible : Legible table) (mask : MotorMask) :
    String.utf8Len (spaced (mask.words table)) ≤ 30 := by
  have hletter {firstBit : Nat} {letter : Char} (h : letter ∈ mask.lettersFrom table firstBit) :
      letter.utf8Size = 1 :=
    Char.utf8Size_eq_one_iff.mpr (legible.ascii letter (mem_of_mem_lettersFrom h))
  have hprimary : ∀ word ∈ (mask.lettersFrom table 0).map fun letter ↦ [letter],
      String.utf8Len word < 2 := by
    intro word hword
    obtain ⟨letter, hmem, rfl⟩ := List.mem_map.mp hword
    simp [hletter hmem]
  have hsecondary : ∀ word ∈ (mask.lettersFrom table 16).map fun letter ↦ [letter, '2'],
      String.utf8Len word < 3 := by
    intro word hword
    obtain ⟨letter, hmem, rfl⟩ := List.mem_map.mp hword
    have htwo : '2'.utf8Size = 1 := rfl
    simp [hletter hmem, htwo]
  have hfirst := utf8Len_spaced_le hprimary
  have hsecond := utf8Len_spaced_le hsecondary
  rw [List.length_map] at hfirst hsecond
  have hcount := mask.length_lettersFrom_le table 0
  have hcount' := mask.length_lettersFrom_le table 16
  have hshort := legible.short
  rw [words, spaced_append, String.utf8Len_append]
  omega

/-- The words for a set have no space, since no letter is one. -/
theorem space_notMem_of_mem_words (legible : Legible table) {word : List Char}
    (h : word ∈ mask.words table) : ' ' ∉ word := by
  have hletter {firstBit : Nat} {letter : Char} (h : letter ∈ mask.lettersFrom table firstBit) :
      ' ' ≠ letter := by
    rintro rfl
    exact legible.space_notMem (mem_of_mem_lettersFrom h)
  rcases List.mem_append.mp h with hword | hword
  · obtain ⟨letter, hmem, rfl⟩ := List.mem_map.mp hword
    simpa using hletter hmem
  · obtain ⟨letter, hmem, rfl⟩ := List.mem_map.mp hword
    simpa using hletter hmem

theorem toList_letters_of_legible (legible : Legible table) (mask : MotorMask) :
    (mask.letters table).toList = spaced (mask.words table) := by
  refine (rendered_letters table mask).whole ?_
  rw [String.utf8ByteSize_ofList]
  exact (utf8Len_spaced_words_le legible mask).trans (by decide)

/-- The text of a set tells its words. -/
theorem words_eq_of_letters_eq (legible : Legible table) {a b : MotorMask}
    (h : a.letters table = b.letters table) : a.words table = b.words table := by
  have hspaced : spaced (a.words table) = spaced (b.words table) := by
    rw [← toList_letters_of_legible legible, h, toList_letters_of_legible legible]
  have hsplit : [] :: a.words table = [] :: b.words table := by
    rw [← splitOn_spaced fun _ ↦ space_notMem_of_mem_words legible, hspaced,
      splitOn_spaced fun _ ↦ space_notMem_of_mem_words legible]
  exact (List.cons.inj hsplit).2

/-- A set of motors is rendered as its words, as far as they fit the bounded text. Over a legible
table nothing is left out, and sets have the same text exactly if they agree on the bits for which
there are letters. -/
theorem letters_rendered (table : List Char) :
    (∀ mask : MotorMask, Rendered table mask (mask.letters table)) ∧
      (Legible table →
        (∀ mask : MotorMask, (mask.letters table).toList = spaced (mask.words table)) ∧
        ∀ a b : MotorMask, a.letters table = b.letters table ↔
          ∀ axis < table.length, a.bits.getLsbD axis = b.bits.getLsbD axis ∧
            a.bits.getLsbD (16 + axis) = b.bits.getLsbD (16 + axis)) := by
  refine ⟨rendered_letters table, fun legible ↦
    ⟨toList_letters_of_legible legible, fun a b ↦ ⟨fun heq axis hlt ↦ ?_, fun hagree ↦ ?_⟩⟩⟩
  · have hwords := words_eq_of_letters_eq legible heq
    have hshort : table.length ≤ 16 := legible.short.trans (by decide)
    have hentry : table[axis]? = some table[axis] := List.getElem?_eq_getElem hlt
    refine ⟨Bool.eq_iff_iff.mpr ?_, Bool.eq_iff_iff.mpr ?_⟩
    · rw [← singleton_mem_words legible.nodup hshort hentry, hwords,
        singleton_mem_words legible.nodup hshort hentry]
    · rw [← pair_mem_words legible.nodup hshort hentry, hwords,
        pair_mem_words legible.nodup hshort hentry]
  · have hprimary : a.lettersFrom table 0 = b.lettersFrom table 0 :=
      lettersFrom_congr fun axis hlt ↦ by simpa using (hagree axis hlt).1
    have hsecondary : a.lettersFrom table 16 = b.lettersFrom table 16 :=
      lettersFrom_congr fun axis hlt ↦ (hagree axis hlt).2
    have hwords : a.words table = b.words table := by rw [words, hprimary, hsecondary, words]
    rw [letters, fullLetters_eq, hwords, letters, fullLetters_eq]

/-- All motors of six axes fit. Bits for which there is no letter make no difference. -/
theorem letters_rendered_axisLetters :
    Legible axisLetters ∧
      letters axisLetters ⟨0x3f003f⟩ = " X Y Z A B C X2 Y2 Z2 A2 B2 C2" ∧
      (letters axisLetters ⟨0x3f003f⟩).toList = spaced (words axisLetters ⟨0x3f003f⟩) ∧
      letters axisLetters ⟨0x10002⟩ = letters axisLetters ⟨0x80410042⟩ ∧
      letters axisLetters ⟨0x10002⟩ ≠ letters axisLetters ⟨0x20001⟩ := by
  have legible : Legible axisLetters :=
    ⟨by decide, by decide, by simp [axisLetters], by decide⟩
  have hrendered := letters_rendered axisLetters
  obtain ⟨-, htext⟩ := hrendered.2 legible
  refine ⟨legible, by decide, (hrendered.1 ⟨0x3f003f⟩).whole (by decide), ?_, fun heq ↦ ?_⟩
  · exact (htext ⟨0x10002⟩ ⟨0x80410042⟩).mpr (by decide)
  · exact absurd ((htext ⟨0x10002⟩ ⟨0x20001⟩).mp heq 0 (by decide)).1 (by decide)

end MotorMask

end MotionControl
