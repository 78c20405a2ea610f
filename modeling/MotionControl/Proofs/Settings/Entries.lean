import Mathlib.Data.List.Nodup
import MotionControl.Settings.Decode

/-!
# What a section takes from each of its entries

A table has its entries, and an array names its items after the settings in their order, so that
both are read as entries. Whether an entry fits its setting does not depend on what is in the
section already, so a section is read exactly if each of its entries is read on its own
(`decodeSection_ok_iff`). What a setting is read into comes from an entry with the key of the
setting, or is what it was before the first entry (`ReadInto.origin`).
-/

set_option autoImplicit false
set_option relaxedAutoImplicit false

namespace MotionControl

open Toml (Node)

variable {σ : Type}

/-- The entries that a node has for the settings of a section, if it can be read as a section. -/
def entriesFor (known : List (Setting σ)) : Node → Option (List (String × Node))
  | .table entries => some entries
  | .array items => some ((known.map Setting.key).zip items)
  | .moment => some []
  | _ => none

theorem map_eq_ok_iff {α β ε : Type} {f : α → β} {result : Except ε α} {b : β} :
    result.map f = .ok b ↔ ∃ a, result = .ok a ∧ f a = b := by
  cases result <;> simp [Except.map]

namespace Setting

/-- The setting leaves alone what `value` reads off a section. -/
def Frames {α : Type} (value : σ → α) (setting : Setting σ) : Prop :=
  ∀ stored settings, value (setting.store stored settings) = value settings

variable {setting : Setting σ} {node : Node} {start next : σ}

theorem enter_eq_ok : setting.enter node start = .ok next ↔
    ∃ stored, setting.decode node = .ok stored ∧ setting.store stored start = next :=
  map_eq_ok_iff

/-- Whether a node fits the setting does not depend on what is in the section. -/
theorem exists_enter (other : σ) (h : setting.enter node start = .ok next) :
    ∃ next', setting.enter node other = .ok next' := by
  obtain ⟨stored, hdecode, -⟩ := enter_eq_ok.mp h
  exact ⟨_, enter_eq_ok.mpr ⟨stored, hdecode, rfl⟩⟩

theorem Frames.value_eq {α : Type} {value : σ → α} (frames : setting.Frames value)
    (h : setting.enter node start = .ok next) : value next = value start := by
  obtain ⟨stored, -, rfl⟩ := enter_eq_ok.mp h
  exact frames stored start

theorem enter_optional {α : Type} {key : String} {decode : Decoder α}
    {store : Option α → σ → σ} (node : Node) (settings : σ) :
    (optional key decode store).enter node settings =
      (decode node).map fun stored ↦ store (some stored) settings := by
  change ((decode node).map some).map (fun stored ↦ store stored settings) = _
  cases decode node <;> rfl

end Setting

/-! ### Reading the entries one after the other -/

section

variable {known : List (Setting σ)}

theorem enterEntry_of_mem (distinct : (known.map Setting.key).Nodup) {setting : Setting σ}
    (hmem : setting ∈ known) (settings : σ) (node : Node) :
    enterEntry known settings (setting.key, node) = setting.enter node settings := by
  have hfound : known.find? (fun other ↦ other.key == setting.key) = some setting := by
    obtain ⟨found, hfound⟩ : ∃ found, known.find? (fun other ↦ other.key == setting.key) =
        some found := by
      rw [← Option.isSome_iff_exists, List.find?_isSome]
      exact ⟨setting, hmem, beq_self_eq_true _⟩
    have hkey : found.key = setting.key := by simpa using List.find?_some hfound
    rw [hfound, List.inj_on_of_nodup_map distinct (List.mem_of_find?_eq_some hfound) hmem hkey]
  rw [enterEntry, hfound]

/-- An array is read as the entries that name its items after the settings in their order. -/
theorem foldlM_zip (distinct : (known.map Setting.key).Nodup) {listed : List (Setting σ)}
    (sub : ∀ setting ∈ listed, setting ∈ known) (items : List Node) (start : σ) :
    (listed.zip items).foldlM (fun settings pair ↦ pair.1.enter pair.2 settings) start =
      ((listed.map Setting.key).zip items).foldlM (enterEntry known) start := by
  induction listed generalizing items start with
  | nil => rfl
  | cons setting listed ih =>
    obtain ⟨hsetting, hlisted⟩ := List.forall_mem_cons.mp sub
    cases items with
    | nil => rfl
    | cons node items =>
      simp only [List.map_cons, List.zip_cons_cons, List.foldlM_cons, ih hlisted,
        enterEntry_of_mem distinct hsetting]

theorem exists_enterEntry (other : σ) {start next : σ} {entry : String × Node}
    (h : enterEntry known start entry = .ok next) :
    ∃ next', enterEntry known other entry = .ok next' := by
  unfold enterEntry at h ⊢
  split at h
  next => exact Setting.exists_enter other h
  next => exact ⟨other, rfl⟩

theorem foldlM_cons_eq_ok {entry : String × Node} {entries : List (String × Node)}
    {start settings : σ} :
    (entry :: entries).foldlM (enterEntry known) start = .ok settings ↔
      ∃ next, enterEntry known start entry = .ok next ∧
        entries.foldlM (enterEntry known) next = .ok settings := by
  rw [List.foldlM_cons]
  cases enterEntry known start entry with
  | error mismatch => simp [bind, Except.bind]
  | ok next => simp [bind, Except.bind]

/-- Entries are read together exactly if each is read on its own. -/
theorem foldlM_ok_iff {entries : List (String × Node)} (start initial : σ) :
    (∃ settings, entries.foldlM (enterEntry known) start = .ok settings) ↔
      ∀ entry ∈ entries, ∃ settings, [entry].foldlM (enterEntry known) initial = .ok settings := by
  -- What the entries before it leave behind does not matter to the fit of an entry.
  induction entries generalizing start with
  | nil => exact ⟨fun _ ↦ by simp, fun _ ↦ ⟨start, rfl⟩⟩
  | cons entry entries ih =>
    rw [List.forall_mem_cons]
    constructor
    · rintro ⟨settings, h⟩
      obtain ⟨next, hentry, hrest⟩ := foldlM_cons_eq_ok.mp h
      obtain ⟨alone, halone⟩ := exists_enterEntry initial hentry
      exact ⟨⟨alone, foldlM_cons_eq_ok.mpr ⟨alone, halone, rfl⟩⟩, (ih next).mp ⟨settings, hrest⟩⟩
    · rintro ⟨⟨alone, halone⟩, hrest⟩
      obtain ⟨_, hentry, -⟩ := foldlM_cons_eq_ok.mp halone
      obtain ⟨next, hnext⟩ := exists_enterEntry start hentry
      obtain ⟨settings, hsettings⟩ := (ih next).mpr hrest
      exact ⟨settings, foldlM_cons_eq_ok.mpr ⟨next, hnext, hsettings⟩⟩

end

section

variable {known : List (Setting σ)} (distinct : (known.map Setting.key).Nodup)

include distinct

theorem decodeSection_eq_foldlM {node : Node} {entries : List (String × Node)}
    (hentries : entriesFor known node = some entries) (expected : Expected) (blank : σ) :
    decodeSection expected known blank node =
      entries.foldlM (enterEntry known) (leaveAllOut known blank) := by
  cases node with
  | table entries' =>
    cases hentries
    rfl
  | array items =>
    cases hentries
    exact foldlM_zip distinct (fun _ h ↦ h) items _
  | moment =>
    cases hentries
    rfl
  | _ => cases hentries

/-- A section is read exactly if each of its entries is read on its own. -/
theorem decodeSection_ok_iff {node : Node} {entries : List (String × Node)}
    (hentries : entriesFor known node = some entries) (expected : Expected) (blank : σ) :
    (∃ settings, decodeSection expected known blank node = .ok settings) ↔
      ∀ entry ∈ entries, ∃ settings,
        decodeSection expected known blank (.table [entry]) = .ok settings := by
  rw [decodeSection_eq_foldlM distinct hentries]
  exact foldlM_ok_iff _ _

end

/-! ### Where a setting is read into -/

/-- The setting of the key is read by `decode` into what `value` reads off a section, and no other
setting changes it. -/
structure ReadInto {α : Type} (known : List (Setting σ)) (key : String) (decode : Decoder α)
    (value : σ → Option α) : Prop where
  found : ∃ setting, known.find? (fun setting ↦ setting.key == key) = some setting ∧
    ∃ store : α → σ → σ,
      (∀ node settings,
        setting.enter node settings = (decode node).map fun stored ↦ store stored settings) ∧
      ∀ stored settings, value (store stored settings) = some stored
  frame : ∀ setting ∈ known, setting.key = key ∨ setting.Frames value

namespace ReadInto

variable {α : Type} {known : List (Setting σ)} {key : String} {decode : Decoder α}
  {value : σ → Option α} (into : ReadInto known key decode value)

include into

theorem enterEntry_eq_ok {node : Node} {start next : σ}
    (h : enterEntry known start (key, node) = .ok next) :
    ∃ stored, decode node = .ok stored ∧ value next = some stored := by
  obtain ⟨setting, hfound, store, henter, hstore⟩ := into.found
  rw [enterEntry, hfound] at h
  obtain ⟨stored, hdecode, rfl⟩ := map_eq_ok_iff.mp ((henter node start).symm.trans h)
  exact ⟨stored, hdecode, hstore _ _⟩

theorem value_eq_of_ne {entry : String × Node} (other : entry.1 ≠ key) {start next : σ}
    (h : enterEntry known start entry = .ok next) : value next = value start := by
  unfold enterEntry at h
  split at h
  next setting hfound =>
    have hkey : setting.key = entry.1 := by simpa using List.find?_some hfound
    rcases into.frame setting (List.mem_of_find?_eq_some hfound) with heq | hframes
    · exact absurd (hkey.symm.trans heq) other
    · exact hframes.value_eq h
  next =>
    cases h
    rfl

/-- What is read into comes from an entry with the key, or from before the first entry. -/
theorem foldlM_origin {entries : List (String × Node)} {start settings : σ}
    (h : entries.foldlM (enterEntry known) start = .ok settings) :
    (key ∉ entries.map Prod.fst ∧ value settings = value start) ∨
      ∃ node stored, (key, node) ∈ entries ∧ decode node = .ok stored ∧
        value settings = some stored := by
  induction entries generalizing start with
  | nil =>
    cases h
    exact .inl ⟨by simp, rfl⟩
  | cons entry entries ih =>
    obtain ⟨next, hentry, hrest⟩ := foldlM_cons_eq_ok.mp h
    rcases ih hrest with ⟨hmissing, hvalue⟩ | ⟨node, stored, hmem, hread⟩
    · by_cases hkey : entry.1 = key
      · obtain ⟨_, node⟩ := entry
        cases hkey
        obtain ⟨stored, hdecode, hstored⟩ := into.enterEntry_eq_ok hentry
        exact .inr ⟨node, stored, List.mem_cons_self, hdecode, hvalue.trans hstored⟩
      · rw [into.value_eq_of_ne hkey hentry] at hvalue
        refine .inl ⟨fun hmem ↦ ?_, hvalue⟩
        rcases List.mem_cons.mp hmem with heq | hmem
        · exact hkey heq.symm
        · exact hmissing hmem
    · exact .inr ⟨node, stored, List.mem_cons_of_mem _ hmem, hread⟩

/-- An entry with a value that can be read is read on its own. -/
theorem singleton_ok {node : Node} {stored : α} (hdecode : decode node = .ok stored) (start : σ) :
    ∃ settings, [(key, node)].foldlM (enterEntry known) start = .ok settings ∧
      value settings = some stored := by
  obtain ⟨setting, hfound, store, henter, hstore⟩ := into.found
  refine ⟨store stored start, foldlM_cons_eq_ok.mpr ⟨_, ?_, rfl⟩, hstore _ _⟩
  rw [enterEntry, hfound]
  exact (henter node start).trans (map_eq_ok_iff.mpr ⟨stored, hdecode, rfl⟩)

/-- An entry with a value that cannot be read is refused on its own. -/
theorem singleton_error {node : Node} {mismatch : Mismatch}
    (hdecode : decode node = .error mismatch) (start : σ) :
    [(key, node)].foldlM (enterEntry known) start = .error mismatch := by
  obtain ⟨setting, hfound, store, henter, -⟩ := into.found
  simp [enterEntry, hfound, henter, hdecode, Except.map, bind, Except.bind]

end ReadInto

/-! ### Entries of entries -/

/-- The node is a section with an entry for the key. -/
def HasEntry (known : List (Setting σ)) (node : Node) (key : String) (child : Node) : Prop :=
  ∃ entries, entriesFor known node = some entries ∧ (key, child) ∈ entries

section

variable {α : Type} {known : List (Setting σ)} {key : String} {decode : Decoder α}
  {value : σ → Option α} (distinct : (known.map Setting.key).Nodup)
  (into : ReadInto known key decode value) {expected : Expected} {blank settings : σ} {node : Node}

include distinct into

/-- In a section that is read, every entry with the key is read. -/
theorem HasEntry.decode_ok {child : Node} (has : HasEntry known node key child)
    (h : decodeSection expected known blank node = .ok settings) :
    ∃ stored, decode child = .ok stored := by
  obtain ⟨entries, hentries, hmem⟩ := has
  obtain ⟨alone, halone⟩ :=
    (decodeSection_ok_iff distinct hentries expected blank).mp ⟨settings, h⟩ _ hmem
  obtain ⟨next, hentry, -⟩ := foldlM_cons_eq_ok.mp halone
  obtain ⟨stored, hdecode, -⟩ := into.enterEntry_eq_ok hentry
  exact ⟨stored, hdecode⟩

/-- What a section that is read holds comes from an entry, or is what is there when it is left
out. -/
theorem ReadInto.origin (h : decodeSection expected known blank node = .ok settings) :
    value settings = value (leaveAllOut known blank) ∨
      ∃ child stored, HasEntry known node key child ∧ decode child = .ok stored ∧
        value settings = some stored := by
  obtain ⟨entries, hentries⟩ : ∃ entries, entriesFor known node = some entries := by
    cases node <;> first | exact ⟨_, rfl⟩ | cases h
  rw [decodeSection_eq_foldlM distinct hentries] at h
  rcases into.foldlM_origin h with ⟨-, hvalue⟩ | ⟨child, stored, hmem, hread⟩
  · exact .inl hvalue
  · exact .inr ⟨child, stored, ⟨entries, hentries, hmem⟩, hread⟩

/-- What is not there when it is left out comes from an entry. -/
theorem ReadInto.exists_entry (h : decodeSection expected known blank node = .ok settings)
    (absent : value (leaveAllOut known blank) = none) {stored : α}
    (hvalue : value settings = some stored) :
    ∃ child, HasEntry known node key child ∧ decode child = .ok stored := by
  rcases into.origin distinct h with hleft | ⟨child, found, hentry, hdecode, hfound⟩
  · cases hvalue.symm.trans (hleft.trans absent)
  · cases hvalue.symm.trans hfound
    exact ⟨child, hentry, hdecode⟩

end

end MotionControl
