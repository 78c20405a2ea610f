import Mathlib.Data.List.DropRight

/-!
# Histories

A history is a list of entries, the latest last. Most of what is said of one concerns the entries
after the last one of some kind (`since`), and the last value that an entry carries (`latest?`).
Both are known as soon as it is known what one more entry does to them.

Two histories may be merged into one that keeps the order of each (`Interleaving`). If only one of
them has entries with a value, every merging has the same last value.
-/

set_option autoImplicit false
set_option relaxedAutoImplicit false

namespace MotionControl

variable {α β : Type}

/-- The entries after the last one that resets; all entries if none does. -/
def since (resets : α → Bool) (history : List α) : List α :=
  history.rtakeWhile fun entry ↦ !resets entry

@[simp] theorem since_nil (resets : α → Bool) : since resets [] = [] :=
  List.rtakeWhile_nil _

theorem since_concat_of_resets {resets : α → Bool} (history : List α) {entry : α}
    (h : resets entry = true) : since resets (history ++ [entry]) = [] :=
  List.rtakeWhile_concat_neg _ _ _ (by simp [h])

theorem since_concat {resets : α → Bool} (history : List α) {entry : α}
    (h : resets entry = false) :
    since resets (history ++ [entry]) = since resets history ++ [entry] :=
  List.rtakeWhile_concat_pos _ _ _ (by simp [h])

/-- The value that the last entry with a value carries. -/
def latest? (value : α → Option β) (history : List α) : Option β :=
  (history.filterMap value).getLast?

@[simp] theorem latest?_nil (value : α → Option β) : latest? value [] = none := rfl

@[simp] theorem latest?_concat (value : α → Option β) (history : List α) (entry : α) :
    latest? value (history ++ [entry]) = (value entry).or (latest? value history) := by
  cases h : value entry <;> simp [latest?, h]

theorem latest?_cons (value : α → Option β) (entry : α) (history : List α) :
    latest? value (entry :: history) = (latest? value history).or (value entry) := by
  cases h : value entry with
  | none => simp [latest?, h]
  | some carried => simp [latest?, h, List.getLast?_cons, Option.or_some]

theorem latest?_append (value : α → Option β) (first second : List α) :
    latest? value (first ++ second) = (latest? value second).or (latest? value first) := by
  rw [latest?, List.filterMap_append, List.getLast?_append]
  rfl

theorem latest?_eq_none {value : α → Option β} {history : List α}
    (h : ∀ entry ∈ history, value entry = none) : latest? value history = none := by
  rw [latest?, List.filterMap_eq_nil_iff.mpr h, List.getLast?_nil]

/-- The last value is that of an entry which no entry with a value follows. -/
theorem latest?_eq_some_iff {value : α → Option β} {history : List α} {carried : β} :
    latest? value history = some carried ↔
      ∃ before entry after, history = before ++ entry :: after ∧ value entry = some carried ∧
        ∀ later ∈ after, value later = none := by
  constructor
  · intro h
    obtain ⟨values, hvalues⟩ := List.getLast?_eq_some_iff.mp h
    obtain ⟨first, second, rfl, -, hlast⟩ := List.filterMap_eq_append_iff.mp hvalues
    obtain ⟨between, entry, after, rfl, -, hentry, hnone⟩ := List.filterMap_eq_cons_iff.mp hlast
    exact ⟨first ++ between, entry, after, by rw [List.append_assoc], hentry,
      List.filterMap_eq_nil_iff.mp hnone⟩
  · rintro ⟨before, entry, after, rfl, hentry, hafter⟩
    rw [latest?_append, latest?_cons, latest?_eq_none hafter, hentry]
    rfl

/-! ### Interleavings -/

/-- The third list merges the first two and keeps the order of each. -/
inductive Interleaving {α : Type} : List α → List α → List α → Prop
  | nil : Interleaving [] [] []
  | left {a : α} {as bs cs : List α} : Interleaving as bs cs → Interleaving (a :: as) bs (a :: cs)
  | right {b : α} {as bs cs : List α} : Interleaving as bs cs → Interleaving as (b :: bs) (b :: cs)

namespace Interleaving

variable {α : Type} {as bs cs : List α}

theorem symm (h : Interleaving as bs cs) : Interleaving bs as cs := by
  induction h with
  | nil => exact .nil
  | left _ ih => exact .right ih
  | right _ ih => exact .left ih

theorem append (as bs : List α) : Interleaving as bs (as ++ bs) := by
  induction as with
  | nil =>
    induction bs with
    | nil => exact .nil
    | cons b bs ih => exact .right ih
  | cons a as ih => exact .left ih

/-- Two lists of different kinds are found in their interleaving. -/
theorem filter_eq_left {p : α → Bool} (h : Interleaving as bs cs) (left : ∀ a ∈ as, p a = true)
    (right : ∀ b ∈ bs, p b = false) : cs.filter p = as := by
  induction h with
  | nil => rfl
  | left _ ih =>
    obtain ⟨hfirst, hrest⟩ := List.forall_mem_cons.mp left
    rw [List.filter_cons_of_pos hfirst, ih hrest right]
  | right _ ih =>
    obtain ⟨hfirst, hrest⟩ := List.forall_mem_cons.mp right
    rw [List.filter_cons_of_neg (by simp [hfirst]), ih left hrest]

/-- The values of an interleaving are those of the one list if the other has none. -/
theorem filterMap_eq_right {β : Type} {value : α → Option β} (h : Interleaving as bs cs)
    (left : ∀ a ∈ as, value a = none) : cs.filterMap value = bs.filterMap value := by
  induction h with
  | nil => rfl
  | left _ ih =>
    obtain ⟨hfirst, hrest⟩ := List.forall_mem_cons.mp left
    rw [List.filterMap_cons_none hfirst, ih hrest]
  | right _ ih => rw [List.filterMap_cons, List.filterMap_cons, ih left]

/-- If only one of two lists has values, each interleaving has the same last value. -/
theorem latest?_eq_append {β : Type} {value : α → Option β} (h : Interleaving as bs cs)
    (apart : (∀ a ∈ as, value a = none) ∨ ∀ b ∈ bs, value b = none) :
    latest? value cs = latest? value (as ++ bs) := by
  rw [latest?_append]
  rcases apart with hleft | hright
  · rw [latest?_eq_none hleft, Option.or_none, latest?, h.filterMap_eq_right hleft]
    rfl
  · rw [latest?_eq_none hright, Option.none_or, latest?, h.symm.filterMap_eq_right hright]
    rfl

end Interleaving

end MotionControl
