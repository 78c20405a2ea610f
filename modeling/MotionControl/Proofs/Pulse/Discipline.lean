import MotionControl.Proofs.Pulse.Commands

/-!
# The words that peripherals receive

A peripheral is handed to a step timer once, when the timer is set up over it. What it receives from
then on is a word (`PeripheralCommand.Word`): it is paused and programmed to the base frequency, and
after that it is only told what it may be told. The word ends enabled exactly while the peripheral
is in place and the timer runs (`StepTimer.drives`), so one that was replaced was paused before, and
it receives nothing more.

The invariant is kept for each peripheral on its own (`StepTimer.Conducted`), whatever other
peripherals come and go; `StepTimer.along_disciplined` puts it together for every course.
-/

set_option autoImplicit false
set_option relaxedAutoImplicit false

namespace MotionControl

variable {κ : Type}

/-! ### Words of commands -/

namespace PeripheralCommand

/-- What a peripheral receives that a timer is set up over with a base frequency: it is paused and
programmed to that frequency, and then told what it may be told. The flag says whether its interrupt
is enabled in the end. -/
inductive Word (hertz : Nat) : Bool → List PeripheralCommand → Prop
  | setUp : Word hertz false [.pause, .setFrequency hertz]
  | next {before after : Bool} {word : List PeripheralCommand} {command : PeripheralCommand} :
    Word hertz before word → command.Allowed hertz before after →
      Word hertz after (word ++ [command])

/-- Whether the interrupt is enabled after a command that switches it. -/
def switches? : PeripheralCommand → Option Bool
  | resume => some true
  | pause => some false
  | _ => none

/-- The interrupt is as the last resumption or pause of the word left it. -/
theorem Word.latest?_switches? {hertz : Nat} {enabled : Bool} {word : List PeripheralCommand}
    (h : Word hertz enabled word) : latest? switches? word = some enabled := by
  induction h with
  | setUp => rfl
  | next _ hallowed ih =>
    rw [latest?_concat, ih]
    cases hallowed <;> rfl

end PeripheralCommand

open PeripheralCommand (Word)

/-- The command to the peripheral of a tag. -/
def PulseEvent.commandTo? (tag : Nat) : PulseEvent κ → Option PeripheralCommand
  | .command other told => if other = tag then some told else none
  | _ => none

namespace Deed

/-- The base frequency with which the timer was set up over the peripheral of a tag. -/
def setting? (tag : Nat) : Deed (StepTimer κ) (TimerOp κ) κ → Option Nat
  | called op peripheral _ outcome =>
    if outcome.answer = .done ∧ peripheral.tag = tag then op.setUp?.map Prod.fst else none
  | _ => none

/-- The fault of an operation that failed. -/
def fault? : Deed (StepTimer κ) (TimerOp κ) κ → Option TimerFault
  | called _ _ _ outcome =>
    match outcome.answer with
    | .fault reason => some reason
    | _ => none
  | _ => none

/-- An operation that fails reaches no peripheral, and nothing programs one to a rate of zero. -/
structure Proper (deed : Deed (StepTimer κ) (TimerOp κ) κ) : Prop where
  failed : ∀ reason, deed.fault? = some reason → deed.events = []
  nonzero : ∀ tag, .command tag (.setFrequency 0) ∉ deed.events

end Deed

namespace Course

/-- The commands that the peripheral of a tag received. -/
def commandsTo {σ Op : Type} (course : Course σ Op κ) (tag : Nat) : List PeripheralCommand :=
  (course.history.flatMap Deed.events).filterMap (PulseEvent.commandTo? tag)

/-- The base frequencies with which the timer was set up over the peripheral of a tag. A peripheral
is handed over for good, so there is at most one. -/
def settings (course : Course (StepTimer κ) (TimerOp κ) κ) (tag : Nat) : List Nat :=
  course.history.filterMap (Deed.setting? tag)

theorem commandsTo_of_history {σ Op : Type} {course after : Course σ Op κ} {deed : Deed σ Op κ}
    (history : after.history = course.history ++ [deed]) (tag : Nat) :
    after.commandsTo tag =
      course.commandsTo tag ++ deed.events.filterMap (PulseEvent.commandTo? tag) := by
  rw [commandsTo, history]
  simp [commandsTo]

theorem settings_of_history {course after : Course (StepTimer κ) (TimerOp κ) κ}
    {deed : Deed (StepTimer κ) (TimerOp κ) κ}
    (history : after.history = course.history ++ [deed]) (tag : Nat) :
    after.settings tag = course.settings tag ++ (deed.setting? tag).toList := by
  rw [settings, history, List.filterMap_append]
  cases h : deed.setting? tag <;> simp [settings, h]

end Course

namespace StepTimer

/-! ### The peripheral in place -/

/-- The tag of the peripheral in place. -/
def tag? (timer : StepTimer κ) : Option Nat := timer.peripheral.map Peripheral.tag

/-- Whether the timer runs over the peripheral of a tag. -/
def drives (timer : StepTimer κ) (tag : Nat) : Bool := timer.tag? == some tag && timer.running

theorem drives_of_ne {timer : StepTimer κ} {tag : Nat} (h : timer.tag? ≠ some tag) :
    timer.drives tag = false := by
  simp [drives, h]

theorem drives_of_eq {timer : StepTimer κ} {tag : Nat} (h : timer.tag? = some tag) :
    timer.drives tag = timer.running := by
  simp [drives, h]

section Attends

variable {timer after : StepTimer κ} {events : List (PulseEvent κ)}

theorem Attends.tag?_eq (attends : timer.Attends after events) : after.tag? = timer.tag? := by
  cases attends with
  | silent peripheral => rw [tag?, peripheral, tag?]
  | @told peripheral command installed _ obeyed =>
    rw [tag?, obeyed, tag?, installed]
    cases command <;> rfl

/-- Nothing reaches a peripheral that is not in place. -/
theorem Attends.commandsTo_of_ne (attends : timer.Attends after events) {tag : Nat}
    (h : timer.tag? ≠ some tag) : events.filterMap (PulseEvent.commandTo? tag) = [] := by
  cases attends with
  | silent => rfl
  | @told peripheral command installed =>
    have hne : peripheral.tag ≠ tag := by
      rintro rfl
      exact h (congrArg (Option.map Peripheral.tag) installed)
    simp [PulseEvent.commandTo?, hne]

/-- What reaches the peripheral of a tag continues its word. -/
theorem Attends.word (attends : timer.Attends after events) {tag hertz : Nat}
    {word : List PeripheralCommand} (frequency : timer.tag? = some tag → timer.frequency = hertz)
    (received : Word hertz (timer.drives tag) word) :
    Word hertz (after.drives tag) (word ++ events.filterMap (PulseEvent.commandTo? tag)) := by
  by_cases htag : timer.tag? = some tag
  · rw [drives_of_eq htag, ← frequency htag] at received
    rw [drives_of_eq (attends.tag?_eq.trans htag), ← frequency htag]
    cases attends with
    | silent _ _ _ running =>
      rw [running, List.filterMap_nil, List.append_nil]
      exact received
    | @told peripheral command installed allowed =>
      have heq : peripheral.tag = tag := by
        rw [tag?, installed] at htag
        exact Option.some_inj.mp htag
      have hcommand : ([.command peripheral.tag command] : List (PulseEvent κ)).filterMap
          (PulseEvent.commandTo? tag) = [command] := by
        simp [PulseEvent.commandTo?, heq]
      rw [hcommand]
      exact received.next allowed
  · rw [drives_of_ne htag] at received
    rw [drives_of_ne (attends.tag?_eq ▸ htag), attends.commandsTo_of_ne htag, List.append_nil]
    exact received

end Attends

/-! ### One peripheral -/

/-- What the peripheral of a tag received: nothing before the timer is set up over it, and a word of
its base frequency if that happened once. -/
structure Conducted (tag : Nat) (course : Course (StepTimer κ) (TimerOp κ) κ) : Prop where
  absent : course.settings tag = [] → course.device.tag? ≠ some tag ∧ course.commandsTo tag = []
  word : ∀ hertz, course.settings tag = [hertz] →
    (course.device.tag? = some tag → course.device.frequency = hertz) ∧
      Word hertz (course.device.drives tag) (course.commandsTo tag)

section Conducted

variable {course after : Course (StepTimer κ) (TimerOp κ) κ} {tag : Nat}

/-- A deed that attends to the peripheral in place keeps every peripheral conducted. -/
theorem Conducted.attends (conducted : Conducted tag course)
    (deed : Deed (StepTimer κ) (TimerOp κ) κ) (setting : deed.setting? tag = none)
    (history : after.history = course.history ++ [deed]) {events : List (PulseEvent κ)}
    (attends : course.device.Attends after.device events)
    (told : deed.events.filterMap (PulseEvent.commandTo? tag) =
      events.filterMap (PulseEvent.commandTo? tag)) : Conducted tag after := by
  have hsettings : after.settings tag = course.settings tag := by
    rw [Course.settings_of_history history, setting]
    exact List.append_nil _
  have hcommands := Course.commandsTo_of_history history tag
  rw [told] at hcommands
  constructor
  · intro hnone
    obtain ⟨htag, hnothing⟩ := conducted.absent (hsettings.symm.trans hnone)
    rw [attends.tag?_eq, hcommands, hnothing, attends.commandsTo_of_ne htag]
    exact ⟨htag, rfl⟩
  · intro hertz honce
    obtain ⟨hfrequency, hword⟩ := conducted.word hertz (hsettings.symm.trans honce)
    rw [attends.tag?_eq, attends.frequency_eq, hcommands]
    exact ⟨hfrequency, attends.word hfrequency hword⟩

/-- Setting the timer up over one peripheral pauses the one it replaces and begins the word of the
new one; all others are left alone. -/
theorem Conducted.setUp (conducted : Conducted tag course) (sound : course.device.Sound)
    {op : TimerOp κ} {hertz : Nat} {callback : κ} (setUp : op.setUp? = some (hertz, callback))
    (hne : hertz ≠ 0) (peripheral : Peripheral) : Conducted tag (course.call op peripheral) := by
  obtain ⟨hanswer, hstate⟩ := setUp_granted course.device peripheral setUp hne
  let deed := Deed.called op peripheral course.device (op.perform peripheral course.device)
  have hdevice : (course.call op peripheral).device =
      fitted ((peripheral.obey .pause).obey (.setFrequency hertz)) callback hertz 0 := hstate
  have hplace : (course.call op peripheral).device.tag? = some peripheral.tag := by
    rw [hdevice]
    rfl
  have hhistory : (course.call op peripheral).history = course.history ++ [deed] := rfl
  have hsettings := Course.settings_of_history hhistory tag
  have hcommands : (course.call op peripheral).commandsTo tag = course.commandsTo tag ++
      (course.device.stop.events.filterMap (PulseEvent.commandTo? tag) ++
        if peripheral.tag = tag then [.pause, .setFrequency hertz] else []) := by
    rw [Course.commandsTo_of_history hhistory]
    refine congrArg _ ?_
    change (op.perform peripheral course.device).events.filterMap _ = _
    rw [setUp_events course.device peripheral setUp hne, List.filterMap_append]
    by_cases htag : peripheral.tag = tag <;> simp [PulseEvent.commandTo?, htag]
  have hstop := sound.stop_attends
  -- The peripheral of the tag is the new one, or it is not in place afterwards.
  by_cases htag : peripheral.tag = tag
  · have hsetting : deed.setting? tag = some hertz := by
      simp [deed, Deed.setting?, hanswer, htag, setUp]
    rw [hsetting] at hsettings
    constructor
    · intro hnone
      rw [hsettings] at hnone
      exact absurd hnone (List.append_ne_nil_of_right_ne_nil _ (List.cons_ne_nil _ _))
    · intro hertz' honce
      obtain ⟨hbefore, rfl⟩ : course.settings tag = [] ∧ hertz = hertz' := by
        rw [hsettings] at honce
        simpa [List.append_eq_singleton_iff] using honce
      obtain ⟨habsent, hnothing⟩ := conducted.absent hbefore
      rw [hcommands, hnothing, hstop.commandsTo_of_ne habsent, if_pos htag,
        drives_of_eq (htag ▸ hplace), hdevice]
      exact ⟨fun _ ↦ rfl, .setUp⟩
  · have hgone : (course.call op peripheral).device.tag? ≠ some tag := by
      rw [hplace]
      exact fun h ↦ htag (Option.some_inj.mp h)
    have hsetting : deed.setting? tag = none := by
      simp [deed, Deed.setting?, htag]
    rw [hsetting, Option.toList_none, List.append_nil] at hsettings
    rw [if_neg htag, List.append_nil] at hcommands
    constructor
    · intro hnone
      obtain ⟨habsent, hnothing⟩ := conducted.absent (hsettings.symm.trans hnone)
      rw [hcommands, hnothing, hstop.commandsTo_of_ne habsent]
      exact ⟨hgone, rfl⟩
    · intro hertz' honce
      obtain ⟨hfrequency, hword⟩ := conducted.word hertz' (hsettings.symm.trans honce)
      refine ⟨fun h ↦ absurd h hgone, ?_⟩
      have hpaused := hstop.word hfrequency hword
      have hrests : course.device.stop.state.drives tag = false := by
        rw [drives, stop_running, Bool.and_false]
      rw [hcommands, drives_of_ne hgone]
      exact hrests ▸ hpaused

theorem Conducted.call (conducted : Conducted tag course) (sound : course.device.Sound)
    {op : TimerOp κ} (orderly : op.Orderly) (peripheral : Peripheral) :
    Conducted tag (course.call op peripheral) := by
  rcases sound.perform_cases orderly peripheral with
    ⟨hunset, hattends⟩ | ⟨hertz, callback, hne, hop⟩
  · let deed := Deed.called op peripheral course.device (op.perform peripheral course.device)
    have hsetting : deed.setting? tag = none := by
      simpa [deed, Deed.setting?] using fun hdone _ ↦ hunset hdone
    exact conducted.attends deed hsetting rfl hattends rfl
  · exact conducted.setUp sound hop hne peripheral

/-- From a point where it is not in place, every peripheral is conducted. -/
theorem Sound.conducted (sound : course.device.Sound) (absent : course.device.tag? ≠ some tag)
    {moves : List (PulseMove (TimerOp κ))} (orderly : ∀ move ∈ moves, move.Within TimerOp.Orderly) :
    Conducted tag (course.afresh.run moves) := by
  refine (Sound.run_induction (P := Conducted tag) course.afresh sound
    ⟨fun _ ↦ ⟨absent, rfl⟩, nofun⟩ ?_ ?_ ?_ ?_ orderly).2
  · intro course op peripheral hsound hop hconducted
    exact hconducted.call hsound hop peripheral
  · intro course _ hconducted
    exact hconducted.attends .passed rfl rfl (.refl _) rfl
  · intro course callback _ hconducted
    exact hconducted.attends (.entered callback) rfl rfl (.refl _) rfl
  · intro course underway goOn hsound hconducted
    exact hconducted.attends (.left goOn (course.device.afterCallback goOn)) rfl rfl
      (hsound.afterCallback_attends goOn) rfl

end Conducted

/-! ### All deeds -/

theorem not_allowed_zero {hertz : Nat} {before after : Bool} :
    ¬ (PeripheralCommand.setFrequency 0).Allowed hertz before after := by
  intro h
  cases h with
  | program pos _ => exact absurd pos (by decide)

theorem Attends.nonzero {timer after : StepTimer κ} {events : List (PulseEvent κ)}
    (attends : timer.Attends after events) (tag : Nat) :
    .command tag (.setFrequency 0) ∉ events := by
  cases attends with
  | silent => exact List.not_mem_nil
  | told _ allowed =>
    intro h
    obtain ⟨-, rfl⟩ := PulseEvent.command.inj (List.mem_singleton.mp h)
    exact not_allowed_zero allowed

theorem Sound.proper_called {timer : StepTimer κ} (sound : timer.Sound) {op : TimerOp κ}
    (orderly : op.Orderly) (peripheral : Peripheral) :
    (Deed.called op peripheral timer (op.perform peripheral timer)).Proper := by
  constructor
  · intro reason hreason
    have hanswer : (op.perform peripheral timer).answer = .fault reason := by
      simp only [Deed.fault?] at hreason
      split at hreason
      next answer hanswer =>
        cases hreason
        exact hanswer
      next => cases hreason
    exact (perform_fault hanswer).2
  · intro tag
    change _ ∉ (op.perform peripheral timer).events
    rcases sound.perform_cases orderly peripheral with ⟨-, hattends⟩ | ⟨hertz, callback, hne, hop⟩
    · exact hattends.nonzero tag
    · rw [setUp_events timer peripheral hop hne, List.mem_append, not_or]
      refine ⟨sound.stop_attends.nonzero tag, ?_⟩
      simp [Ne.symm hne]

/-- A deed that is no operation that failed. -/
theorem proper_of_fault?_eq_none {deed : Deed (StepTimer κ) (TimerOp κ) κ}
    (h : deed.fault? = none) (nonzero : ∀ tag, .command tag (.setFrequency 0) ∉ deed.events) :
    deed.Proper where
  failed reason hreason := by
    rw [h] at hreason
    cases hreason
  nonzero := nonzero

theorem proper_along {moves : List (PulseMove (TimerOp κ))}
    (orderly : ∀ move ∈ moves, move.Within TimerOp.Orderly) :
    ∀ deed ∈ (Course.along ({} : StepTimer κ) moves).history, deed.Proper := by
  have hconcat {course : Course (StepTimer κ) (TimerOp κ) κ}
      {last : Deed (StepTimer κ) (TimerOp κ) κ} (hcourse : ∀ deed ∈ course.history, deed.Proper)
      (hlast : last.Proper) : ∀ deed ∈ course.history ++ [last], deed.Proper :=
    List.forall_mem_append.mpr ⟨hcourse, List.forall_mem_singleton.mpr hlast⟩
  refine (Sound.run_induction (P := fun course ↦ ∀ deed ∈ course.history, deed.Proper)
    ⟨{}, 0, []⟩ .fresh (fun _ h ↦ absurd h List.not_mem_nil) ?_ ?_ ?_ ?_ orderly).2
  · intro course op peripheral hsound hop hcourse
    exact hconcat hcourse (hsound.proper_called hop peripheral)
  · intro course _ hcourse
    exact hconcat hcourse (proper_of_fault?_eq_none rfl fun _ ↦ List.not_mem_nil)
  · intro course callback _ hcourse
    exact hconcat hcourse (proper_of_fault?_eq_none rfl fun _ ↦ by simp [Deed.events])
  · intro course underway goOn hsound hcourse
    exact hconcat hcourse
      (proper_of_fault?_eq_none rfl (hsound.afterCallback_attends goOn).nonzero)

/-- What reaches the peripherals along a course. -/
structure Disciplined (course : Course (StepTimer κ) (TimerOp κ) κ) : Prop where
  /-- A peripheral over which the timer was set up receives a word of its base frequency, -/
  word : ∀ tag hertz, course.settings tag = [hertz] →
    Word hertz (course.device.drives tag) (course.commandsTo tag)
  /-- of which the last switch is a resumption exactly while it is in place and the timer runs. -/
  lastSwitch : ∀ tag hertz, course.settings tag = [hertz] →
    (latest? PeripheralCommand.switches? (course.commandsTo tag) = some true ↔
      course.device.tag? = some tag ∧ course.device.running = true)
  /-- A peripheral that is not in place receives nothing unless the timer is set up over it. -/
  replaced : ∀ tag, course.device.tag? ≠ some tag → ∀ later : List (PulseMove (TimerOp κ)),
    (∀ move ∈ later, move.Within TimerOp.Orderly) → (course.afresh.run later).settings tag = [] →
      (course.afresh.run later).commandsTo tag = []
  /-- A peripheral over which the timer was never set up received nothing. -/
  unused : ∀ tag, course.settings tag = [] → course.commandsTo tag = []
  /-- A start of a running timer and a stop of a stopped one reach no peripheral. -/
  repeated : (course.device.running = true → course.device.start.events = []) ∧
    (course.device.running = false → course.device.stop.events = [])
  proper : ∀ deed ∈ course.history, deed.Proper

/-- Every course of a timer that was never set up is disciplined. -/
theorem along_disciplined {moves : List (PulseMove (TimerOp κ))}
    (orderly : ∀ move ∈ moves, move.Within TimerOp.Orderly) :
    Disciplined (Course.along ({} : StepTimer κ) moves) := by
  have hfresh : (⟨{}, 0, []⟩ : Course (StepTimer κ) (TimerOp κ) κ).device.Sound := .fresh
  have hsound : (Course.along ({} : StepTimer κ) moves).device.Sound := hfresh.run orderly
  have hconducted (tag : Nat) : Conducted tag (Course.along ({} : StepTimer κ) moves) :=
    hfresh.conducted (Option.some_ne_none tag).symm orderly
  have hproper := proper_along orderly
  generalize Course.along ({} : StepTimer κ) moves = course at hsound hconducted hproper
  refine ⟨?_, ?_, ?_, ?_, ⟨?_, ?_⟩, hproper⟩
  · intro tag hertz honce
    exact ((hconducted tag).word hertz honce).2
  · intro tag hertz honce
    rw [((hconducted tag).word hertz honce).2.latest?_switches?]
    simp [drives]
  · intro tag habsent later hlater hunset
    exact ((hsound.conducted habsent hlater).absent hunset).2
  · intro tag hunset
    exact ((hconducted tag).absent hunset).2
  · intro hrunning
    simp only [start, hrunning, Bool.true_or]
    split <;> rfl
  · intro hstopped
    rw [stop, hstopped]
    rfl

/-- A first peripheral is started twice and slowed down, setting up over a second one fails, and a
third replaces the first from inside a callback, which then starts the timer. -/
def replacedWhileRunning : List (PulseMove (TimerOp String)) :=
  [.call (.init 1000 "step") ⟨1, true, 0, true, 0⟩, .call .start ⟨2, true, 0, false, 0⟩,
    .call .start ⟨2, true, 0, false, 0⟩, .call (.setTicks 3) ⟨2, true, 0, false, 0⟩,
    .call (.setTicks 5000) ⟨2, true, 0, false, 0⟩, .interrupt,
    .call (.init 0 "step") ⟨2, true, 0, false, 0⟩, .call .reset ⟨3, true, 0, false, 0⟩,
    .call (.init 500 "step") ⟨3, true, 0, false, 0⟩, .call .start ⟨4, true, 0, false, 0⟩,
    .leave true]

theorem along_disciplined_replacedWhileRunning :
    (∀ move ∈ replacedWhileRunning, move.Within TimerOp.Orderly) ∧
      Disciplined (Course.along ({} : StepTimer String) replacedWhileRunning) ∧
      Word 1000 false ((Course.along ({} : StepTimer String) replacedWhileRunning).commandsTo 1) ∧
      Word 500 true ((Course.along ({} : StepTimer String) replacedWhileRunning).commandsTo 3) ∧
      (Course.along ({} : StepTimer String) replacedWhileRunning).commandsTo 1 =
        [.pause, .setFrequency 1000, .resume, .setFrequency 333, .resetCount, .pause] ∧
      (Course.along ({} : StepTimer String) replacedWhileRunning).commandsTo 2 = [] ∧
      (Course.along ({} : StepTimer String) replacedWhileRunning).commandsTo 3 =
        [.pause, .setFrequency 500, .resume] := by
  have orderly : ∀ move ∈ replacedWhileRunning, move.Within TimerOp.Orderly := by
    simp [replacedWhileRunning, PulseMove.Within, TimerOp.Orderly]
  have disciplined := along_disciplined orderly
  exact ⟨orderly, disciplined, disciplined.word 1 1000 rfl, disciplined.word 3 500 rfl, rfl,
    disciplined.unused 2 rfl, rfl⟩

end StepTimer

end MotionControl
