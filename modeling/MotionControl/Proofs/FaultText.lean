import MotionControl.Fault
import MotionControl.Proofs.Binary.ShortestText

/-!
# The text of a fault identifies it

The text of a fault opens with words that no fault of another kind opens with, whatever letter
stands among them: the openings of different kinds have different characters at some place where
neither has a letter (`Fault.Kind.eq_of_compatible`). Behind the opening the text determines the
data. A letter is the one character where it stands, a slot ends at the first character that is not
a digit, a reason is all that is left, and different numbers have different texts. So faults of the
same text are the same fault (`Fault.identified_by_text`).
-/

set_option autoImplicit false
set_option relaxedAutoImplicit false

namespace MotionControl

/-! ### Openings -/

/-- The text begins with the pattern, in which `none` stands for any one character. -/
inductive Opens : List (Option Char) → List Char → Prop
  | blank (text : List Char) : Opens [] text
  | char {pattern : List (Option Char)} {text : List Char} (c : Char) (rest : Opens pattern text) :
      Opens (some c :: pattern) (c :: text)
  | letter {pattern : List (Option Char)} {text : List Char} (c : Char)
      (rest : Opens pattern text) : Opens (none :: pattern) (c :: text)

/-- Whether two patterns have the same character wherever both have one. -/
def compatible : List (Option Char) → List (Option Char) → Bool
  | some c :: first, some d :: second => c == d && compatible first second
  | _ :: first, _ :: second => compatible first second
  | _, _ => true

/-- Patterns that one text begins with are compatible. -/
theorem compatible_of_opens {first second : List (Option Char)} {text : List Char}
    (hfirst : Opens first text) (hsecond : Opens second text) :
    compatible first second = true := by
  induction hfirst generalizing second with
  | blank => simp [compatible]
  | char c rest ih =>
    cases hsecond with
    | blank => rfl
    | char _ rest' => simp [compatible, ih rest']
    | letter _ rest' => exact ih rest'
  | letter c rest ih =>
    cases hsecond with
    | blank => rfl
    | char _ rest' => exact ih rest'
    | letter _ rest' => exact ih rest'

/-- The pattern of a fixed text. -/
def words (text : String) : List (Option Char) := text.toList.map some

namespace Opens

variable {pattern : List (Option Char)} {text : List Char}

theorem words_append (start : String) (rest : Opens pattern text) :
    Opens (words start ++ pattern) (start.toList ++ text) := by
  unfold words
  induction start.toList with
  | nil => exact rest
  | cons c _ ih => exact .char c ih

theorem letter_append (c : Char) (rest : Opens pattern text) :
    Opens (none :: pattern) ((toString c).toList ++ text) :=
  (String.toList_singleton c).symm ▸ .letter c rest

theorem of_words (start : String) (text : List Char) :
    Opens (words start) (start.toList ++ text) := by
  have h := words_append start (.blank text)
  rwa [List.append_nil] at h

theorem of_all_words (text : String) : Opens (words text) text.toList := by
  have h := of_words text []
  rwa [List.append_nil] at h

end Opens

/-! ### What follows an opening -/

section Data

variable {before middle separator after rest rest' : String} {c d : Char} {m n : Nat}

theorem natText_injective : Function.Injective (toString : Nat → String) := by
  intro m n h
  have hdigits := congrArg (fun text ↦ Nat.ofDigitChars 10 text.toList 0) h
  simpa [Nat.toString_eq_ofList_toDigits] using hdigits

theorem isDigit_of_mem_natText (c : Char) (h : c ∈ (toString n).toList) : c.isDigit = true := by
  rw [Nat.toString_eq_ofList_toDigits, String.toList_ofList] at h
  exact isDigit_of_mem_toDigits c h

theorem count_inj (h : before ++ toString m ++ after = before ++ toString n ++ after) : m = n :=
  natText_injective ((String.append_right_inj _).mp ((String.append_left_inj _).mp h))

/-- The digits of a count end at the first character that is not a digit. -/
theorem count_append_inj (hseparator : ∃ c ∈ separator.toList.head?, c.isDigit = false)
    (h : toString m ++ (separator ++ rest) = toString n ++ (separator ++ rest')) :
    m = n ∧ rest = rest' := by
  obtain ⟨c, hhead, hc⟩ := hseparator
  obtain ⟨tail, hcons⟩ := List.head?_eq_some_iff.mp hhead
  have hdigits (count : Nat) (rest : String) :
      (toString count ++ (separator ++ rest)).toList.takeWhile Char.isDigit =
        (toString count).toList := by
    rw [String.toList_append, String.toList_append, hcons, List.cons_append,
      List.takeWhile_append_of_pos isDigit_of_mem_natText,
      List.takeWhile_cons_of_neg (by simp [hc]), List.append_nil]
  have hcounts : (toString m).toList = (toString n).toList := by
    rw [← hdigits m rest, h, hdigits]
  obtain rfl := natText_injective (String.toList_inj.mp hcounts)
  exact ⟨rfl, (String.append_right_inj _).mp ((String.append_right_inj _).mp h)⟩

/-- A letter is the one character where it stands. -/
theorem letter_append_inj (h : before ++ toString c ++ rest = before ++ toString d ++ rest') :
    c = d ∧ rest = rest' := by
  have hlists := congrArg String.toList h
  have hletter (c : Char) : (toString c).toList = [c] := String.toList_singleton c
  simpa [hletter, String.toList_inj] using hlists

/-- A letter and the data behind it, which are shown by a text that determines them. -/
theorem lettered_inj {α : Type} {shown : α → String} (injective : Function.Injective shown)
    {a b : α}
    (h : before ++ toString c ++ middle ++ shown a = before ++ toString d ++ middle ++ shown b) :
    c = d ∧ a = b := by
  have hgrouped : before ++ toString c ++ (middle ++ shown a) =
      before ++ toString d ++ (middle ++ shown b) := by
    simpa only [String.append_assoc] using h
  obtain ⟨hletter, hrest⟩ := letter_append_inj hgrouped
  exact ⟨hletter, injective ((String.append_right_inj _).mp hrest)⟩

theorem reading_inj {v w : Single}
    (h : before ++ toString c ++ middle ++ toString v.text ++ after =
      before ++ toString d ++ middle ++ toString w.text ++ after) : c = d ∧ v = w :=
  lettered_inj Binary.text_injective ((String.append_left_inj _).mp h)

theorem slotReading_inj (hseparator : ∃ c ∈ separator.toList.head?, c.isDigit = false)
    {v w : Single}
    (h : before ++ toString c ++ middle ++ toString m ++ separator ++ toString v.text ++ after =
      before ++ toString d ++ middle ++ toString n ++ separator ++ toString w.text ++ after) :
    c = d ∧ m = n ∧ v = w := by
  have hgrouped :
      before ++ toString c ++ (middle ++ (toString m ++ (separator ++ toString v.text))) =
        before ++ toString d ++ (middle ++ (toString n ++ (separator ++ toString w.text))) := by
    simpa only [String.append_assoc] using (String.append_left_inj _).mp h
  obtain ⟨hletter, hrest⟩ := letter_append_inj hgrouped
  obtain ⟨hslot, hvalue⟩ := count_append_inj hseparator ((String.append_right_inj _).mp hrest)
  exact ⟨hletter, hslot, Binary.text_injective hvalue⟩

end Data

/-! ### Faults of the configuration -/

namespace ConfigFault

/-- A fault of the configuration without its data. -/
inductive Kind
  | unreadable | homingRuns | stepsPerMm | maxRate | acceleration | maxTravel | homingRate
  | homingScaler | pulloff | pulseWidth | timerFrequency | driverUnavailable | unavailable
  deriving DecidableEq

def kind : ConfigFault → Kind
  | unreadable _ => .unreadable
  | homingRuns _ => .homingRuns
  | stepsPerMm _ _ => .stepsPerMm
  | maxRate _ _ => .maxRate
  | acceleration _ _ => .acceleration
  | maxTravel _ _ => .maxTravel
  | homingRate _ _ => .homingRate
  | homingScaler _ _ => .homingScaler
  | pulloff _ _ _ => .pulloff
  | pulseWidth _ => .pulseWidth
  | timerFrequency _ => .timerFrequency
  | driverUnavailable _ _ => .driverUnavailable
  | unavailable _ => .unavailable

namespace Kind

def all : List Kind :=
  [unreadable, homingRuns, stepsPerMm, maxRate, acceleration, maxTravel, homingRate, homingScaler,
    pulloff, pulseWidth, timerFrequency, driverUnavailable, unavailable]

theorem mem_all (kind : Kind) : kind ∈ all := by cases kind <;> decide

/-- The words in front of the first number or reason, the letter of the axis left open. -/
def opening : Kind → List (Option Char)
  | unreadable => words "Parse error: "
  | homingRuns => words "Invalid homing runs: "
  | stepsPerMm => words "Axis " ++ none :: words ": invalid steps per mm "
  | maxRate => words "Axis " ++ none :: words ": invalid max rate "
  | acceleration => words "Axis " ++ none :: words ": invalid acceleration "
  | maxTravel => words "Axis " ++ none :: words ": invalid max travel "
  | homingRate => words "Axis " ++ none :: words ": invalid homing rate "
  | homingScaler => words "Axis " ++ none :: words ": invalid homing scaler "
  | pulloff => words "Axis " ++ none :: words " motor "
  | pulseWidth => words "Invalid step pulse width: "
  | timerFrequency => words "Invalid step timer frequency: "
  | driverUnavailable => words "No driver available for axis "
  | unavailable => words "I/O error: "

end Kind

theorem opens_text (fault : ConfigFault) : Opens fault.kind.opening fault.text.toList := by
  unfold text
  cases fault <;> simp only [String.toList_append, List.append_assoc]
  case stepsPerMm | maxRate | acceleration | maxTravel | homingRate | homingScaler | pulloff =>
    exact .words_append _ (.letter_append _ (.of_words _ _))
  all_goals exact .of_words _ _

/-- Among faults of one kind, the text determines the data. -/
theorem eq_of_text_eq {first second : ConfigFault} (hkind : first.kind = second.kind)
    (h : first.text = second.text) : first = second := by
  cases first <;> cases second <;> cases hkind
  case unreadable.unreadable.refl | unavailable.unavailable.refl =>
    obtain rfl := (String.append_right_inj _).mp h
    rfl
  case homingRuns.homingRuns.refl | pulseWidth.pulseWidth.refl
      | timerFrequency.timerFrequency.refl =>
    obtain rfl := count_inj h
    rfl
  case pulloff.pulloff.refl =>
    obtain ⟨rfl, rfl, rfl⟩ := slotReading_inj ⟨':', by decide, by decide⟩ h
    rfl
  case driverUnavailable.driverUnavailable.refl =>
    obtain ⟨rfl, rfl⟩ := lettered_inj natText_injective h
    rfl
  -- The six quantities that are out of range.
  all_goals
    obtain ⟨rfl, rfl⟩ := reading_inj h
    rfl

end ConfigFault

/-! ### Faults of the axis registry -/

namespace AxisFault

/-- A fault of the axis registry without its data. -/
inductive Kind
  | line | axisOutOfRange | slotOutOfRange
  deriving DecidableEq

def kind : AxisFault → Kind
  | line => .line
  | axisOutOfRange _ => .axisOutOfRange
  | slotOutOfRange _ => .slotOutOfRange

namespace Kind

def all : List Kind := [line, axisOutOfRange, slotOutOfRange]

theorem mem_all (kind : Kind) : kind ∈ all := by cases kind <;> decide

/-- The words in front of the number that is out of range, and all of them where there is none. -/
def opening : Kind → List (Option Char)
  | line => words "Shared stepper pin operation failed"
  | axisOutOfRange => words "Axis index "
  | slotOutOfRange => words "Motor slot "

end Kind

theorem opens_text (fault : AxisFault) : Opens fault.kind.opening fault.text.toList := by
  unfold text
  cases fault <;> simp only [String.toList_append, List.append_assoc]
  case line => exact .of_all_words _
  all_goals exact .of_words _ _

/-- Among faults of one kind, the text determines the data. -/
theorem eq_of_text_eq {first second : AxisFault} (hkind : first.kind = second.kind)
    (h : first.text = second.text) : first = second := by
  cases first <;> cases second <;> cases hkind
  case line.line.refl => rfl
  all_goals
    obtain rfl := count_inj h
    rfl

end AxisFault

/-! ### All faults -/

namespace TimerFault

def all : List TimerFault := [notInitialized, zeroTicks, zeroFrequency]

theorem mem_all (fault : TimerFault) : fault ∈ all := by cases fault <;> decide

end TimerFault

namespace Fault

/-- A fault without its data. A misuse of the timer has none. -/
inductive Kind
  | config (kind : ConfigFault.Kind)
  | axis (kind : AxisFault.Kind)
  | timer (fault : TimerFault)
  deriving DecidableEq

def kind : Fault → Kind
  | config fault => .config fault.kind
  | axis fault => .axis fault.kind
  | timer fault => .timer fault

namespace Kind

def all : List Kind :=
  ConfigFault.Kind.all.map config ++ (AxisFault.Kind.all.map axis ++ TimerFault.all.map timer)

theorem mem_all (kind : Kind) : kind ∈ all := by
  cases kind with
  | config kind => exact List.mem_append_left _ (List.mem_map_of_mem kind.mem_all)
  | axis kind =>
    exact List.mem_append_right _ (List.mem_append_left _ (List.mem_map_of_mem kind.mem_all))
  | timer fault =>
    exact List.mem_append_right _ (List.mem_append_right _ (List.mem_map_of_mem fault.mem_all))

def opening : Kind → List (Option Char)
  | config kind => words "Configuration error: " ++ kind.opening
  | axis kind => words "Axis error: " ++ kind.opening
  | timer fault => words "Step timer error: " ++ words fault.text

/-- The openings of different kinds differ in a character. -/
theorem eq_of_compatible {first second : Kind}
    (h : compatible first.opening second.opening = true) : first = second := by
  -- There are finitely many kinds, and the openings of any two of them are fixed.
  have hall : ∀ first ∈ all, ∀ second ∈ all,
      compatible first.opening second.opening = true → first = second := by decide +kernel
  exact hall first first.mem_all second second.mem_all h

end Kind

theorem opens_text (fault : Fault) : Opens fault.kind.opening fault.text.toList := by
  unfold text
  cases fault with
  | config fault =>
    rw [String.toList_append]
    exact .words_append _ fault.opens_text
  | axis fault =>
    rw [String.toList_append]
    exact .words_append _ fault.opens_text
  | timer fault =>
    rw [String.toList_append]
    exact .words_append _ (.of_all_words _)

theorem kind_eq_of_text_eq {first second : Fault} (h : first.text = second.text) :
    first.kind = second.kind := by
  have hsecond := second.opens_text
  rw [← h] at hsecond
  exact Kind.eq_of_compatible (compatible_of_opens first.opens_text hsecond)

/-- Faults of the same text are the same fault: the text shows which kind of fault it is and all of
its data. -/
theorem identified_by_text : Function.Injective text := by
  intro first second h
  have hkind := kind_eq_of_text_eq h
  cases first with
  | config first =>
    cases second with
    | config second =>
      have htexts : first.text = second.text := (String.append_right_inj _).mp h
      rw [ConfigFault.eq_of_text_eq (Kind.config.inj hkind) htexts]
    | axis => cases hkind
    | timer => cases hkind
  | axis first =>
    cases second with
    | config => cases hkind
    | axis second =>
      have htexts : first.text = second.text := (String.append_right_inj _).mp h
      rw [AxisFault.eq_of_text_eq (Kind.axis.inj hkind) htexts]
    | timer => cases hkind
  | timer first =>
    cases second with
    | config => cases hkind
    | axis => cases hkind
    | timer second => rw [Kind.timer.inj hkind]

end Fault

end MotionControl
