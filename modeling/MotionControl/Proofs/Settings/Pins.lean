import MotionControl.Proofs.Settings.Entries
import MotionControl.Proofs.Settings.Spelling
import MotionControl.Proofs.Text.Stripped

/-!
# Texts at pins

The text of a pin is kept as it was written, or not at all: nothing makes a pin of a part of a text
(`Pin.whole_or_none`). A text of up to `pinCapacity` bytes gives the same pin in the program as in a
document, and the pin is defined unless the text, stripped of white space, is empty or spells
`NO_PIN` in some ASCII case (`NamesPin`). A longer text gives no pin in the program, and a document
that has it at any pin of the machine is refused (`HasText.fits`).
-/

set_option autoImplicit false
set_option relaxedAutoImplicit false

namespace MotionControl

open Toml (Node)

/-! ### Texts that name a pin -/

/-- The text, stripped of white space, is not empty and is not the name for no pin, whatever the
case of its letters. -/
def NamesPin (text : String) : Prop :=
  ∃ core, Stripped text.toList core ∧ core ≠ [] ∧ ¬SameUpToCase core undefinedPin.toList

theorem namesPin_iff {text : String} : NamesPin text ↔ trimBlank text.toList ≠ [] ∧
    ¬SameUpToCase (trimBlank text.toList) undefinedPin.toList := by
  simp [NamesPin, stripped_iff]

theorem Pin.isDefined_iff (pin : Pin) : pin.isDefined = true ↔ NamesPin pin.text := by
  have hupper : undefinedPin.toList.map Char.toUpper = undefinedPin.toList := by decide
  rw [namesPin_iff, sameUpToCase_iff, hupper]
  simp [Pin.isDefined]

/-- The other text has more white space at its ends, or letters in another case. -/
inductive Respells (text : String) : String → Prop
  | padded (lead trail : String) (leading : ∀ c ∈ lead.toList, isBlank c = true)
      (trailing : ∀ c ∈ trail.toList, isBlank c = true) : Respells text (lead ++ text ++ trail)
  | recased {other : String} (same : SameUpToCase text.toList other.toList) : Respells text other

theorem Respells.sameUpToCase {text other : String} (h : Respells text other) :
    SameUpToCase (trimBlank text.toList) (trimBlank other.toList) := by
  cases h with
  | padded lead trail leading trailing =>
    rw [String.toList_append, String.toList_append, trimBlank_append _ leading trailing]
    exact sameUpToCase_iff.mpr rfl
  | recased same => exact same.trimBlank

/-- White space at the ends and the case of letters do not decide whether a text names a pin. -/
theorem namesPin_congr {text other : String} (h : Relation.EqvGen Respells text other) :
    NamesPin text ↔ NamesPin other := by
  -- Only the trimmed text in upper case counts, and no respelling changes it.
  have hupper : (trimBlank text.toList).map Char.toUpper =
      (trimBlank other.toList).map Char.toUpper := by
    induction h with
    | rel _ _ h => exact sameUpToCase_iff.mp h.sameUpToCase
    | refl => rfl
    | symm _ _ _ ih => exact ih.symm
    | trans _ _ _ _ _ ih ih' => exact ih.trans ih'
  have hempty : trimBlank text.toList ≠ [] ↔ trimBlank other.toList ≠ [] := by
    rw [← List.map_eq_nil_iff (f := Char.toUpper).ne, hupper, List.map_eq_nil_iff.ne]
  rw [namesPin_iff, namesPin_iff, sameUpToCase_iff, sameUpToCase_iff, hupper, hempty]

/-! ### A text and its pin -/

namespace Pin

variable {text : String}

theorem ofText_of_le (fits : text.utf8ByteSize ≤ pinCapacity) : ofText text = ⟨text, fits⟩ := by
  rw [ofText, ofText?, dif_pos fits, Option.getD_some]

theorem ofText_of_lt (long : pinCapacity < text.utf8ByteSize) : ofText text = unwired := by
  rw [ofText, ofText?, dif_neg (by omega), Option.getD_none]

theorem decodePin_of_le (fits : text.utf8ByteSize ≤ pinCapacity) :
    decodePin (.string text) = .ok (ofText text) := by
  rw [decodePin, ofText?, dif_pos fits, ofText_of_le fits]

theorem decodePin_of_lt (long : pinCapacity < text.utf8ByteSize) :
    decodePin (.string text) = .error (.size text.utf8ByteSize .pin) := by
  rw [decodePin, ofText?, dif_neg (by omega)]

/-- What is read as a pin is a text that fits, and the pin is the pin of the text. -/
theorem decodePin_eq_ok {node : Node} {pin : Pin} (h : decodePin node = .ok pin) :
    ∃ text, node = .string text ∧ text.utf8ByteSize ≤ pinCapacity ∧ pin = ofText text := by
  cases node with
  | string text =>
    by_cases fits : text.utf8ByteSize ≤ pinCapacity
    · rw [decodePin_of_le fits] at h
      cases h
      exact ⟨text, rfl, fits, rfl⟩
    · rw [decodePin_of_lt (by omega)] at h
      cases h
  | _ => cases h

end Pin

/-! ### Pins among the settings -/

/-- The lines that the motors share. -/
inductive SharedPin
  | disable
  | reset
  deriving DecidableEq, Repr

def SharedPin.key : SharedPin → String
  | disable => "shared_stepper_disable_pin"
  | reset => "shared_stepper_reset_pin"

def SharedPin.pin : SharedPin → AxesSettings → Pin
  | disable => (·.disablePin)
  | reset => (·.resetPin)

/-- The limit switches of a motor. -/
inductive LimitPin
  | negative
  | positive
  | all
  deriving DecidableEq, Repr

def LimitPin.key : LimitPin → String
  | negative => "limit_neg_pin"
  | positive => "limit_pos_pin"
  | all => "limit_all_pin"

def LimitPin.pin : LimitPin → MotorSettings → Pin
  | negative => (·.limitNegativePin)
  | positive => (·.limitPositivePin)
  | all => (·.limitAllPin)

/-- The keys of the axes, by index. -/
def axisNames : List String := ["x", "y", "z", "a", "b", "c"]

/-- The keys of the motors of an axis, by slot. -/
def motorNames : List String := ["motor0", "motor1"]

/-- A motor has a limit switch if one of its pins is named. -/
theorem MotorSettings.hasLimitSwitch_iff (settings : MotorSettings) :
    settings.hasLimitSwitch = true ↔ ∃ switch : LimitPin, NamesPin (switch.pin settings).text := by
  simp only [hasLimitSwitch, Bool.or_eq_true, Pin.isDefined_iff]
  constructor
  · rintro ((h | h) | h)
    exacts [⟨.negative, h⟩, ⟨.positive, h⟩, ⟨.all, h⟩]
  · rintro ⟨_ | _ | _, h⟩
    exacts [.inl (.inl h), .inl (.inr h), .inr h]

/-! ### Where sections are read into -/

theorem nodup_motorKeys : (motorKeys.map Setting.key).Nodup := by decide

theorem nodup_axisKeys : (axisKeys.map Setting.key).Nodup := by decide

theorem nodup_axesKeys : (axesKeys.map Setting.key).Nodup := by decide

theorem nodup_machineKeys : (machineKeys.map Setting.key).Nodup := by decide

theorem readInto_limit (switch : LimitPin) :
    ReadInto motorKeys switch.key decodePin (some ∘ switch.pin) := by
  cases switch
  all_goals
    refine ⟨⟨_, rfl, _, fun _ _ ↦ rfl, fun _ _ ↦ rfl⟩, ?_⟩
    simp [motorKeys, LimitPin.key, LimitPin.pin, Setting.Frames]

theorem readInto_shared (line : SharedPin) :
    ReadInto axesKeys line.key decodePin (some ∘ line.pin) := by
  cases line
  all_goals
    refine ⟨⟨_, rfl, _, fun _ _ ↦ rfl, fun _ _ ↦ rfl⟩, ?_⟩
    simp [axesKeys, axisKey, Setting.optional, SharedPin.key, SharedPin.pin, Setting.Frames]

theorem readInto_motor {slot : Nat} {name : String} (h : motorNames[slot]? = some name) :
    ReadInto axisKeys name decodeMotor (·.motor? slot) := by
  obtain ⟨hslot, rfl⟩ := List.getElem?_eq_some_iff.mp h
  change slot < 2 at hslot
  interval_cases slot
  all_goals
    refine ⟨⟨_, rfl, _, Setting.enter_optional, fun _ _ ↦
      (AxisSettings.motor?_set ..).trans (if_pos rfl)⟩, ?_⟩
    simp [axisKeys, motorKey, motorNames, Setting.Frames, Setting.optional, AxisSettings.motor?]

theorem readInto_axis {index : Nat} {name : String} (h : axisNames[index]? = some name) :
    ReadInto axesKeys name decodeAxis (·.axis? index) := by
  obtain ⟨hindex, rfl⟩ := List.getElem?_eq_some_iff.mp h
  change index < 6 at hindex
  interval_cases index
  all_goals
    refine ⟨⟨_, rfl, _, Setting.enter_optional, fun _ _ ↦
      (AxesSettings.axis?_set ..).trans (if_pos rfl)⟩, ?_⟩
    simp +decide [axesKeys, axisKey, axisNames, Setting.Frames, Setting.optional,
      AxesSettings.axis?]

theorem readInto_axes :
    ReadInto machineKeys "axes" (decodeSection .axes axesKeys {})
      (some ∘ MachineSettings.axes) where
  found := ⟨_, rfl, _, fun _ _ ↦ rfl, fun _ _ ↦ rfl⟩
  frame := by simp [machineKeys, Setting.Frames]

/-! ### What a section makes of a text -/

/-- A section keeps the texts of a pin whole or refuses them. -/
structure KeepsWhole {σ : Type} (known : List (Setting σ)) (decode : Decoder σ) (key : String)
    (pin : σ → Pin) : Prop where
  taken : ∀ text : String, text.utf8ByteSize ≤ pinCapacity → ∃ settings,
    decode (.table [(key, .string text)]) = .ok settings ∧ pin settings = .ofText text
  refused : ∀ text : String, pinCapacity < text.utf8ByteSize →
    decode (.table [(key, .string text)]) = .error (.size text.utf8ByteSize .pin)
  /-- Entries do not help or hinder each other. -/
  together : ∀ node entries, entriesFor known node = some entries →
    ((∃ settings, decode node = .ok settings) ↔
      ∀ entry ∈ entries, ∃ settings, decode (.table [entry]) = .ok settings)
  /-- A table names each key once. -/
  named : ∀ node entries settings, entriesFor known node = some entries →
    (entries.map Prod.fst).Nodup → decode node = .ok settings →
      ∀ text, (key, .string text) ∈ entries → pin settings = .ofText text
  /-- A pin comes from nowhere else. -/
  origin : ∀ node settings, decode node = .ok settings → pin settings = .unwired ∨
    ∃ text, HasEntry known node key (.string text) ∧ pin settings = .ofText text

theorem keepsWhole {σ : Type} {known : List (Setting σ)} {key : String} {pin : σ → Pin} {blank : σ}
    (distinct : (known.map Setting.key).Nodup) (into : ReadInto known key decodePin (some ∘ pin))
    (unwired : pin (leaveAllOut known blank) = .unwired) (expected : Expected) :
    KeepsWhole known (decodeSection expected known blank) key pin where
  taken text fits := by
    obtain ⟨settings, h, hpin⟩ :=
      into.singleton_ok (Pin.decodePin_of_le fits) (leaveAllOut known blank)
    exact ⟨settings, h, Option.some.inj hpin⟩
  refused text long := into.singleton_error (Pin.decodePin_of_lt long) _
  together node entries hentries := decodeSection_ok_iff distinct hentries expected blank
  named node entries settings hentries hdistinct h text hmem := by
    rw [decodeSection_eq_foldlM distinct hentries] at h
    rcases into.foldlM_origin h with ⟨hmissing, -⟩ | ⟨other, stored, hother, hdecode, hpin⟩
    · exact absurd (List.mem_map_of_mem hmem) hmissing
    · cases List.inj_on_of_nodup_map hdistinct hother hmem rfl
      obtain ⟨_, heq, -, rfl⟩ := Pin.decodePin_eq_ok hdecode
      cases heq
      exact Option.some.inj hpin
  origin node settings h := by
    rcases into.origin distinct h with hpin | ⟨child, stored, hentry, hdecode, hpin⟩
    · exact .inl ((Option.some.inj hpin).trans unwired)
    · obtain ⟨text, rfl, -, rfl⟩ := Pin.decodePin_eq_ok hdecode
      exact .inr ⟨text, hentry, Option.some.inj hpin⟩

theorem keepsWhole_limit (switch : LimitPin) :
    KeepsWhole motorKeys decodeMotor switch.key switch.pin :=
  keepsWhole nodup_motorKeys (readInto_limit switch) (by cases switch <;> rfl) .motor

theorem keepsWhole_shared (line : SharedPin) :
    KeepsWhole axesKeys (decodeSection .axes axesKeys {}) line.key line.pin :=
  keepsWhole nodup_axesKeys (readInto_shared line) (by cases line <;> rfl) .axes

/-! ### What a document makes of a text -/

/-- Where a machine has a pin. -/
inductive PinPlace
  | shared (line : SharedPin)
  | limit (place : Place) (switch : LimitPin)
  deriving DecidableEq, Repr

/-- The pin at a place, if the motor it belongs to is configured. -/
def MachineSettings.pin? (settings : MachineSettings) : PinPlace → Option Pin
  | .shared line => some (line.pin settings.axes)
  | .limit place switch => (settings.axes.motor? place).map switch.pin

/-- A document has a text for the pin at a place. -/
inductive HasText (root : Node) (text : String) : PinPlace → Prop
  | shared {line : SharedPin} {axes : Node} (haxes : HasEntry machineKeys root "axes" axes)
      (htext : HasEntry axesKeys axes line.key (.string text)) : HasText root text (.shared line)
  | limit {place : Place} {switch : LimitPin} {axes axis motor : Node} {axisName motorName : String}
      (hindex : axisNames[place.axis]? = some axisName)
      (hslot : motorNames[place.slot]? = some motorName)
      (haxes : HasEntry machineKeys root "axes" axes)
      (haxis : HasEntry axesKeys axes axisName axis)
      (hmotor : HasEntry axisKeys axis motorName motor)
      (htext : HasEntry motorKeys motor switch.key (.string text)) :
      HasText root text (.limit place switch)

section

variable {root : Node} {settings : MachineSettings}

/-- A document with a text that does not fit its pin is refused. -/
theorem HasText.fits {text : String} {place : PinPlace} (has : HasText root text place)
    (h : decodeMachine root = .ok settings) : text.utf8ByteSize ≤ pinCapacity := by
  have hpin : ∃ pin, decodePin (.string text) = .ok pin := by
    cases has with
    | shared haxes htext =>
      obtain ⟨_, hread⟩ := haxes.decode_ok nodup_machineKeys readInto_axes h
      exact htext.decode_ok nodup_axesKeys (readInto_shared _) hread
    | limit hindex hslot haxes haxis hmotor htext =>
      obtain ⟨_, hread⟩ := haxes.decode_ok nodup_machineKeys readInto_axes h
      obtain ⟨_, hread⟩ := haxis.decode_ok nodup_axesKeys (readInto_axis hindex) hread
      obtain ⟨_, hread⟩ := hmotor.decode_ok nodup_axisKeys (readInto_motor hslot) hread
      exact htext.decode_ok nodup_motorKeys (readInto_limit _) hread
  obtain ⟨_, hpin⟩ := hpin
  obtain ⟨_, heq, fits, -⟩ := Pin.decodePin_eq_ok hpin
  cases heq
  exact fits

theorem AxesSettings.lt_of_axis? (axes : AxesSettings) {index : Nat} {axis : AxisSettings}
    (h : axes.axis? index = some axis) : index < maxAxes := by
  by_contra hindex
  rw [axis?, Vector.getElem?_eq_none (Nat.le_of_not_lt hindex)] at h
  cases h

theorem AxisSettings.lt_of_motor? (axis : AxisSettings) {slot : Nat} {motor : MotorSettings}
    (h : axis.motor? slot = some motor) : slot < slotsPerAxis := by
  by_contra hslot
  rw [motor?, Vector.getElem?_eq_none (Nat.le_of_not_lt hslot)] at h
  cases h

theorem AxesSettings.motor?_default (place : Place) : ({} : AxesSettings).motor? place = none := by
  rw [motor?, axis?_default, Option.bind_none]

/-- The settings that a document gives a motor are read from its entry. -/
theorem AxesSettings.motor?_origin {axesNode : Node} {axes : AxesSettings} {place : Place}
    {motor : MotorSettings} (h : decodeSection .axes axesKeys {} axesNode = .ok axes)
    (hmotor : axes.motor? place = some motor) :
    ∃ axisName motorName axisNode motorNode, axisNames[place.axis]? = some axisName ∧
      motorNames[place.slot]? = some motorName ∧ HasEntry axesKeys axesNode axisName axisNode ∧
      HasEntry axisKeys axisNode motorName motorNode ∧ decodeMotor motorNode = .ok motor := by
  obtain ⟨axis, haxis, hmotor⟩ := Option.bind_eq_some_iff.mp hmotor
  obtain ⟨axisName, hindex⟩ : ∃ name, axisNames[place.axis]? = some name :=
    ⟨_, List.getElem?_eq_getElem (axes.lt_of_axis? haxis)⟩
  obtain ⟨motorName, hslot⟩ : ∃ name, motorNames[place.slot]? = some name :=
    ⟨_, List.getElem?_eq_getElem (axis.lt_of_motor? hmotor)⟩
  have haxes : (leaveAllOut axesKeys {}).axis? place.axis = none := by
    rw [reading_axes.agrees.leaveAllOut]
    exact axis?_default _
  have hmotors : (leaveAllOut axisKeys {}).motor? place.slot = none := by
    rw [reading_axis.agrees.leaveAllOut]
    exact AxisSettings.motor?_default _
  obtain ⟨axisNode, hentry, hread⟩ :=
    (readInto_axis hindex).exists_entry nodup_axesKeys h haxes haxis
  obtain ⟨motorNode, hentry', hread'⟩ :=
    (readInto_motor hslot).exists_entry nodup_axisKeys hread hmotors hmotor
  exact ⟨axisName, motorName, axisNode, motorNode, hindex, hslot, hentry, hentry', hread'⟩

/-- The pins of a machine are unwired or have the whole texts of its document. -/
theorem MachineSettings.pin_origin (h : decodeMachine root = .ok settings) {place : PinPlace}
    {pin : Pin} (hpin : settings.pin? place = some pin) :
    pin = .unwired ∨ ∃ text, HasText root text place ∧ pin = .ofText text := by
  rcases readInto_axes.origin nodup_machineKeys h with hdefault | ⟨node, axes, haxes, hread, heq⟩
  · have hdefault : settings.axes = {} := Option.some.inj hdefault
    cases place with
    | shared line =>
      rw [pin?, hdefault] at hpin
      cases hpin
      exact .inl (by cases line <;> rfl)
    | limit place switch =>
      rw [pin?, hdefault, AxesSettings.motor?_default] at hpin
      cases hpin
  · cases Option.some.inj heq
    -- From the section of the axes on, a shared line is one entry away and a switch is three.
    cases place with
    | shared line =>
      cases hpin
      rcases (keepsWhole_shared line).origin _ _ hread with hunwired | ⟨text, hentry, hpin⟩
      · exact .inl hunwired
      · exact .inr ⟨text, .shared haxes hentry, hpin⟩
    | limit place switch =>
      obtain ⟨motor, hmotor, rfl⟩ := Option.map_eq_some_iff.mp hpin
      obtain ⟨_, _, _, _, hindex, hslot, haxis, hentry, hread⟩ :=
        AxesSettings.motor?_origin hread hmotor
      rcases (keepsWhole_limit switch).origin _ _ hread with hunwired | ⟨text, htext, hpin⟩
      · exact .inl hunwired
      · exact .inr ⟨text, .limit hindex hslot haxes haxis hentry htext, hpin⟩

end

/-! ### Whole texts or none -/

namespace Pin

/-- The text is a pin as it stands, in the program and in a document. -/
structure Whole (text : String) : Prop where
  text_eq : (ofText text).text = text
  decode : decodePin (.string text) = .ok (ofText text)
  isDefined : (ofText text).isDefined = true ↔ NamesPin text

/-- The text is no pin, in the program or in a document. -/
structure Refused (text : String) : Prop where
  text_eq : (ofText text).text = ""
  decode : decodePin (.string text) = .error (.size text.utf8ByteSize .pin)
  isDefined : (ofText text).isDefined = false

theorem whole_of_le {text : String} (fits : text.utf8ByteSize ≤ pinCapacity) : Whole text where
  text_eq := by rw [ofText_of_le fits]
  decode := decodePin_of_le fits
  isDefined := by rw [isDefined_iff, ofText_of_le fits]

theorem refused_of_lt {text : String} (long : pinCapacity < text.utf8ByteSize) : Refused text where
  text_eq := by rw [ofText_of_lt long, unwired]
  decode := decodePin_of_lt long
  isDefined := by
    rw [ofText_of_lt long]
    rfl

theorem text_ofText (text : String) : (ofText text).text = text ∨ (ofText text).text = "" := by
  rcases Nat.lt_or_ge pinCapacity text.utf8ByteSize with long | fits
  · exact .inr (refused_of_lt long).text_eq
  · exact .inl (whole_of_le fits).text_eq

/-- A text that fits is a pin as it stands and a longer text is none, so no pin has a part of a text
given to it. Neither the white space at the ends of a text nor the case of its letters decides
whether its pin is defined, and the limit switches of a motor are its defined pins. -/
theorem whole_or_none :
    (∀ text : String, text.utf8ByteSize ≤ pinCapacity → Whole text) ∧
    (∀ text : String, pinCapacity < text.utf8ByteSize → Refused text) ∧
    (∀ text, (ofText text).text = text ∨ (ofText text).text = "") ∧
    (∀ text other : String, text.utf8ByteSize ≤ pinCapacity → other.utf8ByteSize ≤ pinCapacity →
      Relation.EqvGen Respells text other → (ofText text).isDefined = (ofText other).isDefined) ∧
    (∀ switch : LimitPin, KeepsWhole motorKeys decodeMotor switch.key switch.pin) ∧
    (∀ line : SharedPin,
      KeepsWhole axesKeys (decodeSection .axes axesKeys {}) line.key line.pin) ∧
    (∀ root settings, decodeMachine root = .ok settings →
      (∀ place text, HasText root text place → text.utf8ByteSize ≤ pinCapacity) ∧
      ∀ place pin, settings.pin? place = some pin →
        pin = .unwired ∨ ∃ text, HasText root text place ∧ pin = .ofText text) ∧
    ∀ settings : MotorSettings, settings.hasLimitSwitch = true ↔
      ∃ switch : LimitPin, NamesPin (switch.pin settings).text := by
  refine ⟨fun _ ↦ whole_of_le, fun _ ↦ refused_of_lt, text_ofText,
    fun text other fits fits' respelled ↦ ?_, keepsWhole_limit, keepsWhole_shared,
    fun root settings h ↦ ⟨fun _ _ has ↦ has.fits h, fun _ _ ↦ MachineSettings.pin_origin h⟩,
    MotorSettings.hasLimitSwitch_iff⟩
  rw [Bool.eq_iff_iff, (whole_of_le fits).isDefined, (whole_of_le fits').isDefined,
    namesPin_congr respelled]

/-! A text that spells no pin, a text of too many bytes though not of too many letters, and a text
that names a limit switch. -/

def noPin : String := "\u3000no_Pin\n"

def accented : String := "ééééééééééééééééé"

def padded : String := " gpio.7\t"

/-- A document with one limit switch. -/
def switched (text : String) : Node :=
  .table [("axes", .table [("y", .table [("motor1", .table [("limit_all_pin", .string text)])])])]

theorem hasText_switched (text : String) : HasText (switched text) text (.limit ⟨1, 1⟩ .all) :=
  .limit rfl rfl ⟨_, rfl, .head _⟩ ⟨_, rfl, .head _⟩ ⟨_, rfl, .head _⟩ ⟨_, rfl, .head _⟩

theorem respells_noPin : Relation.EqvGen Respells noPin undefinedPin :=
  .trans _ "no_Pin" _
    (.symm _ _ (.rel _ _ (.padded "\u3000" "\n" (by simp [isBlank]) (by simp [isBlank]))))
    (.rel _ _ (.recased (sameUpToCase_iff.mpr (by decide +kernel))))

theorem namesPin_padded : NamesPin padded :=
  namesPin_iff.mpr ⟨by decide +kernel, sameUpToCase_iff.not.mpr (by decide +kernel)⟩

theorem whole_or_none_accented :
    (ofText noPin).text = noPin ∧ (ofText noPin).isDefined = false ∧
    (ofText accented).text = "" ∧ decodePin (.string accented) = .error (.size 34 .pin) ∧
    (∀ settings, decodeMachine (switched accented) ≠ .ok settings) ∧
    ∃ settings, decodeMotor (.table [("limit_all_pin", .string padded)]) = .ok settings ∧
      settings.limitAllPin.text = padded ∧ settings.hasLimitSwitch = true := by
  obtain ⟨whole, refused, -, respelled, motor, -, document, switch⟩ := whole_or_none
  refine ⟨(whole noPin (by decide)).text_eq,
    (respelled noPin undefinedPin (by decide) (by decide) respells_noPin).trans (by decide +kernel),
    (refused accented (by decide)).text_eq, (refused accented (by decide)).decode,
    fun settings h ↦ ?_, ?_⟩
  · have fits : accented.utf8ByteSize ≤ pinCapacity :=
      (document _ settings h).1 _ accented (hasText_switched accented)
    exact absurd fits (by decide)
  · obtain ⟨settings, hread, hpin⟩ := (motor .all).taken padded (by decide)
    have htext : settings.limitAllPin.text = padded := by
      rw [show settings.limitAllPin = ofText padded from hpin, (whole padded (by decide)).text_eq]
    refine ⟨settings, hread, htext, (switch settings).mpr ⟨.all, ?_⟩⟩
    change NamesPin settings.limitAllPin.text
    rw [htext]
    exact namesPin_padded

end Pin

end MotionControl
