import Mathlib.Data.List.Nodup
import MotionControl.Settings.Decode

/-!
# Sections and the tables that spell them

A section of settings has fields, each with a key, a default, and the nodes that spell its value.
A table spells a section if the entries with keys of fields spell the values of the fields, and the
fields without an entry have their defaults (`Spelled`). The order of the entries is free, and so
are the entries with other keys. A field that has its default may have an entry or none.

Where each setting enters the value of one field and leaves the other fields alone (`Reading`), to
read a table that spells a section gives the section (`Reading.decodeSection_eq`). The settings that
are left out, each with the default of its own, are together what the section has by default as a
whole (`Agrees`).
-/

set_option autoImplicit false
set_option relaxedAutoImplicit false

namespace MotionControl

open Toml (Node)

/-! ### Fields -/

/-- A field of a section: where it stands, the value it has when it is left out, and the nodes that
spell a value. -/
structure Field (σ : Type) where
  {α : Type}
  key : String
  value : σ → α
  default : α
  Spells : α → Node → Prop

/-- The entries of a table spell a section. -/
structure Spelled {σ : Type} (fields : List (Field σ)) (settings : σ)
    (entries : List (String × Node)) : Prop where
  /-- A table names each key once. -/
  distinct : (entries.map Prod.fst).Nodup
  spelled : ∀ field ∈ fields, ∀ node, (field.key, node) ∈ entries →
    field.Spells (field.value settings) node
  omitted : ∀ field ∈ fields, field.key ∉ entries.map Prod.fst →
    field.value settings = field.default

/-- A node spells a section if it is a table whose entries do. -/
def SpellsSection {σ : Type} (fields : List (Field σ)) (settings : σ) (node : Node) : Prop :=
  ∃ entries, node = .table entries ∧ Spelled fields settings entries

/-- A value that may be absent is spelled if it is there. -/
def SpellsSome {α : Type} (Spells : α → Node → Prop) (value : Option α) (node : Node) : Prop :=
  ∃ present, value = some present ∧ Spells present node

/-- What the settings have by default, each by itself, is what the section has by default as a
whole. -/
structure Agrees {σ : Type} (fields : List (Field σ)) (known : List (Setting σ)) (whole : σ) :
    Prop where
  /-- The section as a whole has the default of every field. -/
  default : ∀ field ∈ fields, field.value whole = field.default
  /-- With every setting left out, whatever was there before, the section is the same. -/
  leaveAllOut : ∀ blank, leaveAllOut known blank = whole

section

variable {σ : Type} {fields : List (Field σ)}

/-- The value of the field in the section is spelled by some node, or may be left out. -/
def Field.Expressible (field : Field σ) (settings : σ) : Prop :=
  (∃ node, field.Spells (field.value settings) node) ∨ field.value settings = field.default

section

variable {field : Field σ} {settings : σ} {entries : List (String × Node)}
  (spelled : Spelled fields settings entries) (new : field.key ∉ entries.map Prod.fst)

include spelled new

theorem Spelled.cons_spelled {node : Node} (other : field.key ∉ fields.map Field.key)
    (spells : field.Spells (field.value settings) node) :
    Spelled (field :: fields) settings ((field.key, node) :: entries) where
  distinct := List.nodup_cons.mpr ⟨new, spelled.distinct⟩
  spelled := by
    refine List.forall_mem_cons.mpr ⟨fun found hmem ↦ ?_, fun listed hlisted found hmem ↦ ?_⟩
    · rcases List.mem_cons.mp hmem with heq | hmem
      · cases heq
        exact spells
      · exact absurd (List.mem_map_of_mem hmem) new
    · rcases List.mem_cons.mp hmem with heq | hmem
      · have hkey : listed.key = field.key := congrArg Prod.fst heq
        exact absurd (hkey ▸ List.mem_map_of_mem hlisted) other
      · exact spelled.spelled listed hlisted found hmem
  omitted := by
    refine List.forall_mem_cons.mpr ⟨fun hmissing ↦ ?_, fun listed hlisted hmissing ↦ ?_⟩
    · exact absurd List.mem_cons_self hmissing
    · exact spelled.omitted listed hlisted fun hmem ↦ hmissing (List.mem_cons_of_mem _ hmem)

theorem Spelled.cons_omitted (default : field.value settings = field.default) :
    Spelled (field :: fields) settings entries where
  distinct := spelled.distinct
  spelled := List.forall_mem_cons.mpr
    ⟨fun _ hmem ↦ absurd (List.mem_map_of_mem hmem) new, spelled.spelled⟩
  omitted := List.forall_mem_cons.mpr ⟨fun _ ↦ default, spelled.omitted⟩

end

/-- A section whose fields can all be spelled or left out is spelled by some table. -/
theorem exists_spelled {settings : σ} (distinct : (fields.map Field.key).Nodup)
    (expressible : ∀ field ∈ fields, field.Expressible settings) :
    ∃ entries, Spelled fields settings entries ∧
      ∀ key ∈ entries.map Prod.fst, key ∈ fields.map Field.key := by
  induction fields with
  | nil => exact ⟨[], ⟨List.nodup_nil, by simp, by simp⟩, by simp⟩
  | cons field fields ih =>
    rw [List.map_cons, List.nodup_cons] at distinct
    obtain ⟨hfield, hfields⟩ := List.forall_mem_cons.mp expressible
    obtain ⟨entries, spelled, hkeys⟩ := ih distinct.2 hfields
    have hnew : field.key ∉ entries.map Prod.fst := fun h ↦ distinct.1 (hkeys _ h)
    have hkeys' : ∀ key ∈ entries.map Prod.fst, key ∈ (field :: fields).map Field.key :=
      fun key hkey ↦ List.mem_cons_of_mem _ (hkeys key hkey)
    rcases hfield with ⟨node, spells⟩ | hdefault
    · exact ⟨_, spelled.cons_spelled hnew distinct.1 spells,
        List.forall_mem_cons.mpr ⟨List.mem_cons_self, hkeys'⟩⟩
    · exact ⟨entries, spelled.cons_omitted hnew hdefault, hkeys'⟩

/-! ### Reading a table -/

theorem leaveAllOut_cons (setting : Setting σ) (known : List (Setting σ)) (current : σ) :
    leaveAllOut (setting :: known) current = leaveAllOut known (setting.leaveOut current) := rfl

/-- Every value is spelled by some node, and a node that spells a value is read as it. -/
structure Reads {α : Type} (decode : Decoder α) (Spells : α → Node → Prop) : Prop where
  exists_node : ∀ value, ∃ node, Spells value node
  decode_eq : ∀ value node, Spells value node → decode node = .ok value

/-- The setting enters the value of the field that a node spells, or its default if it is left out,
and leaves the others alone. -/
structure Field.ReadBy (fields : List (Field σ)) (field : Field σ) (setting : Setting σ) :
    Prop where
  key : setting.key = field.key
  expressible : ∀ settings, field.Expressible settings
  leaveOut : ∀ settings, field.value (setting.leaveOut settings) = field.default ∧
    ∀ other ∈ fields, other.key ≠ field.key →
      other.value (setting.leaveOut settings) = other.value settings
  enter : ∀ settings node start, field.Spells (field.value settings) node →
    ∃ next, setting.enter node start = .ok next ∧ field.value next = field.value settings ∧
      ∀ other ∈ fields, other.key ≠ field.key → other.value next = other.value start

/-- Each setting reads the field of the same place, nothing but its fields is in the section, and
the section as a whole has the defaults of the fields. -/
structure Reading (fields : List (Field σ)) (known : List (Setting σ)) (whole : σ) : Prop where
  distinct : (fields.map Field.key).Nodup
  readBy : List.Forall₂ (Field.ReadBy fields) fields known
  ext : ∀ settings other, (∀ field ∈ fields, field.value settings = field.value other) →
    settings = other
  default : ∀ field ∈ fields, field.value whole = field.default

/-- A key is that of a field and its setting, or of no setting. -/
theorem find?_of_readBy {listed : List (Field σ)} {known : List (Setting σ)}
    (readBy : List.Forall₂ (Field.ReadBy fields) listed known) (key : String) :
    (known.find? (fun setting ↦ setting.key == key) = none ∧ ∀ field ∈ listed, field.key ≠ key) ∨
      ∃ field ∈ listed, ∃ setting, field.key = key ∧
        known.find? (fun setting ↦ setting.key == key) = some setting ∧
        field.ReadBy fields setting := by
  induction readBy with
  | nil => exact .inl ⟨rfl, by simp⟩
  | @cons field setting listed known hread _ ih =>
    by_cases hkey : field.key = key
    · have hfound : (setting.key == key) = true := by rwa [beq_iff_eq, hread.key]
      exact .inr ⟨field, List.mem_cons_self, setting, hkey, by rw [List.find?_cons, hfound], hread⟩
    · have hskip : (setting.key == key) = false := by rwa [beq_eq_false_iff_ne, hread.key]
      simp only [List.find?_cons, hskip]
      rcases ih with ⟨hnone, hfields⟩ | ⟨other, hother, found⟩
      · exact .inl ⟨hnone, List.forall_mem_cons.mpr ⟨hkey, hfields⟩⟩
      · exact .inr ⟨other, List.mem_cons_of_mem _ hother, found⟩

theorem expressible_of_readBy {listed : List (Field σ)} {known : List (Setting σ)}
    (readBy : List.Forall₂ (Field.ReadBy fields) listed known) :
    ∀ field ∈ listed, ∀ settings, field.Expressible settings := by
  induction readBy with
  | nil => simp
  | cons hread _ ih => exact List.forall_mem_cons.mpr ⟨hread.expressible, ih⟩

namespace Reading

variable {known : List (Setting σ)} {whole : σ} (reading : Reading fields known whole)

include reading

theorem field_eq_of_key {field other : Field σ} (hfield : field ∈ fields) (hother : other ∈ fields)
    (heq : field.key = other.key) : field = other :=
  List.inj_on_of_nodup_map reading.distinct hfield hother heq

/-- A field whose setting is among those that are left out has its default then, and the other
fields keep what they have. -/
theorem value_leaveAllOut {listed : List (Field σ)} {left : List (Setting σ)}
    (readBy : List.Forall₂ (Field.ReadBy fields) listed left)
    (sub : ∀ field ∈ listed, field ∈ fields) (current : σ) :
    ∀ field ∈ fields, field.value (leaveAllOut left current) =
      if field.key ∈ listed.map Field.key then field.default else field.value current := by
  -- What the first setting puts in is kept by the others, unless one of them has the same field.
  induction readBy generalizing current with
  | nil => simp [leaveAllOut]
  | @cons first setting listed left hread _ ih =>
    obtain ⟨hfirst, hlisted⟩ := List.forall_mem_cons.mp sub
    intro field hfield
    obtain ⟨hdefault, hothers⟩ := hread.leaveOut current
    have hrest := ih hlisted (setting.leaveOut current) field hfield
    rw [leaveAllOut_cons, hrest, List.map_cons]
    by_cases hkey : field.key = first.key
    · obtain rfl := reading.field_eq_of_key hfield hfirst hkey
      simp [hdefault]
    · simp [hkey, hothers field hfield hkey]

/-- What the settings have by default, each by itself, agrees with what the section has. -/
theorem agrees : Agrees fields known whole where
  default := reading.default
  leaveAllOut blank := reading.ext _ _ fun field hfield ↦ by
    rw [reading.value_leaveAllOut reading.readBy (fun _ h ↦ h) blank field hfield,
      if_pos (List.mem_map_of_mem hfield), reading.default field hfield]

/-- An entry that spells the value of its field enters it. -/
theorem enterEntry_eq (settings current : σ) {key : String} {node : Node}
    (spelled : ∀ field ∈ fields, field.key = key → field.Spells (field.value settings) node) :
    ∃ next, enterEntry known current (key, node) = .ok next ∧
      ∀ field ∈ fields, field.value next =
        if field.key = key then field.value settings else field.value current := by
  rcases find?_of_readBy reading.readBy key with ⟨hnone, hfields⟩ | ⟨field, hfield, setting, rfl,
    hfound, hread⟩
  · refine ⟨current, by rw [enterEntry, hnone], fun field hfield ↦ ?_⟩
    rw [if_neg (hfields field hfield)]
  · obtain ⟨next, henter, hvalue, hothers⟩ :=
      hread.enter settings node current (spelled field hfield rfl)
    refine ⟨next, by rw [enterEntry, hfound]; exact henter, fun other hother ↦ ?_⟩
    split_ifs with hkey
    · rw [reading.field_eq_of_key hother hfield hkey, hvalue]
    · exact hothers other hother hkey

/-- Entries that spell a section complete whatever has its values in all other fields. -/
theorem foldlM_eq {settings : σ} {entries : List (String × Node)}
    (spelled : ∀ field ∈ fields, ∀ node, (field.key, node) ∈ entries →
      field.Spells (field.value settings) node) {current : σ}
    (others : ∀ field ∈ fields, field.key ∉ entries.map Prod.fst →
      field.value settings = field.value current) :
    entries.foldlM (enterEntry known) current = .ok settings := by
  -- Of the entries still to come each brings its field; all other fields have their values already.
  induction entries generalizing current with
  | nil =>
    have heq := reading.ext settings current fun field hfield ↦ others field hfield (by simp)
    rw [heq]
    rfl
  | cons entry entries ih =>
    obtain ⟨key, node⟩ := entry
    obtain ⟨next, henter, hnext⟩ := reading.enterEntry_eq settings current
      fun field hfield hkey ↦ spelled field hfield node (hkey ▸ List.mem_cons_self)
    rw [List.foldlM_cons, henter]
    refine ih (fun field hfield found hmem ↦ ?_) fun field hfield hmissing ↦ ?_
    · exact spelled field hfield found (List.mem_cons_of_mem _ hmem)
    · rw [hnext field hfield]
      split_ifs with hkey
      · rfl
      · exact others field hfield fun hmem ↦ (List.mem_cons.mp hmem).elim hkey hmissing

/-- A table without entries spells what holds by default. -/
theorem spells_nil : SpellsSection fields whole (.table []) :=
  ⟨[], rfl, List.nodup_nil, by simp, fun field hfield _ ↦ reading.default field hfield⟩

theorem exists_spells (settings : σ) : ∃ node, SpellsSection fields settings node := by
  obtain ⟨entries, spelled, -⟩ := exists_spelled reading.distinct fun field hfield ↦
    expressible_of_readBy reading.readBy field hfield settings
  exact ⟨.table entries, entries, rfl, spelled⟩

/-- A table that spells a section reads as the section. -/
theorem decodeSection_eq {settings : σ} {node : Node} (spells : SpellsSection fields settings node)
    (expected : Expected) (blank : σ) :
    decodeSection expected known blank node = .ok settings := by
  obtain ⟨entries, rfl, spelled⟩ := spells
  refine reading.foldlM_eq spelled.spelled fun field hfield hmissing ↦ ?_
  rw [spelled.omitted field hfield hmissing, reading.agrees.leaveAllOut,
    reading.default field hfield]

theorem reads (expected : Expected) (blank : σ) :
    Reads (decodeSection expected known blank) (SpellsSection fields) where
  exists_node := reading.exists_spells
  decode_eq _ _ spells := reading.decodeSection_eq spells expected blank

end Reading

/-! ### Settings that are read into one field -/

section

variable {α : Type} {key : String} {Spells : α → Node → Prop}

/-- A setting that is put into one field reads the field if it decodes what spells its values. -/
theorem Field.ReadBy.of_stores {decode : Decoder α} {store : α → σ → σ} {value : σ → α}
    {default : α} (expressible : ∀ stored, (∃ node, Spells stored node) ∨ stored = default)
    (decode_eq : ∀ stored node, Spells stored node → decode node = .ok stored)
    (frame : ∀ other ∈ fields, other.key ≠ key → ∀ stored settings,
      other.value (store stored settings) = other.value settings)
    (stores : ∀ stored settings, value (store stored settings) = stored) :
    Field.ReadBy fields ⟨key, value, default, Spells⟩ ⟨key, decode, default, store⟩ where
  key := rfl
  expressible settings := expressible (value settings)
  leaveOut settings := ⟨stores _ _, fun other hother hne ↦ frame other hother hne _ _⟩
  enter settings node start spells := by
    refine ⟨store (value settings) start, ?_, stores _ _,
      fun other hother hne ↦ frame other hother hne _ _⟩
    simp only [Setting.enter, decode_eq _ _ spells]
    rfl

variable {decode : Decoder α} (reads : Reads decode Spells)

include reads

theorem Field.ReadBy.plain {store : α → σ → σ} {value : σ → α} {default : α}
    (frame : ∀ other ∈ fields, other.key ≠ key → ∀ stored settings,
      other.value (store stored settings) = other.value settings)
    (stores : ∀ stored settings, value (store stored settings) = stored) :
    Field.ReadBy fields ⟨key, value, default, Spells⟩ ⟨key, decode, default, store⟩ :=
  .of_stores (fun stored ↦ .inl (reads.exists_node stored)) reads.decode_eq frame stores

/-- A field that may be absent is absent by default. -/
theorem Field.ReadBy.optional {store : Option α → σ → σ} {value : σ → Option α}
    (frame : ∀ other ∈ fields, other.key ≠ key → ∀ stored settings,
      other.value (store stored settings) = other.value settings)
    (stores : ∀ stored settings, value (store stored settings) = stored) :
    Field.ReadBy fields ⟨key, value, none, SpellsSome Spells⟩ (.optional key decode store) := by
  refine .of_stores (fun stored ↦ ?_) (fun stored node spells ↦ ?_) frame stores
  · cases stored with
    | none => exact .inr rfl
    | some present =>
      obtain ⟨node, spells⟩ := reads.exists_node present
      exact .inl ⟨node, present, rfl, spells⟩
  · obtain ⟨present, rfl, spells⟩ := spells
    rw [reads.decode_eq _ _ spells]
    rfl

end

end

end MotionControl
