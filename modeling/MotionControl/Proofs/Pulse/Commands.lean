import MotionControl.Proofs.Pulse.TimerState

/-!
# What a step timer tells its peripheral

Between one setting up and the next, a step timer keeps its peripheral, its callback and its base
frequency, and an operation tells the peripheral at most one thing (`StepTimer.Attends`). What may
be told depends on whether the interrupt is enabled (`PeripheralCommand.Allowed`): it is resumed
only while paused, paused only while enabled, and never programmed to a rate of zero or beyond the
base frequency. Setting the timer up pauses the old peripheral in this way, and then pauses and
programs the new one (`StepTimer.setUp_events`). There is nothing else that an operation can do
(`StepTimer.Sound.perform_cases`).
-/

set_option autoImplicit false
set_option relaxedAutoImplicit false

namespace MotionControl

variable {κ : Type}

/-- What a peripheral with a base frequency may be told, by whether its interrupt is enabled before
and after. -/
inductive PeripheralCommand.Allowed (hertz : Nat) : Bool → PeripheralCommand → Bool → Prop
  | resume : Allowed hertz false .resume true
  | pause : Allowed hertz true .pause false
  | program {enabled : Bool} {rate : Nat} (pos : 1 ≤ rate) (le : rate ≤ hertz) :
    Allowed hertz enabled (.setFrequency rate) enabled
  | resetCount {enabled : Bool} : Allowed hertz enabled .resetCount enabled

namespace StepTimer

/-- What an operation that does not set the timer up comes to: nothing, as far as the peripheral is
concerned, or one command that the peripheral may be told. -/
inductive Attends (timer : StepTimer κ) : StepTimer κ → List (PulseEvent κ) → Prop
  | silent {after : StepTimer κ} (peripheral : after.peripheral = timer.peripheral)
      (callback : after.callback = timer.callback) (frequency : after.frequency = timer.frequency)
      (running : after.running = timer.running) : Attends timer after []
  | told {after : StepTimer κ} {peripheral : Peripheral} {command : PeripheralCommand}
      (installed : timer.peripheral = some peripheral)
      (allowed : command.Allowed timer.frequency timer.running after.running)
      (obeyed : after.peripheral = some (peripheral.obey command))
      (callback : after.callback = timer.callback)
      (frequency : after.frequency = timer.frequency) :
      Attends timer after [.command peripheral.tag command]

theorem Attends.refl (timer : StepTimer κ) : timer.Attends timer [] := .silent rfl rfl rfl rfl

theorem Attends.callback_eq {timer after : StepTimer κ} {events : List (PulseEvent κ)}
    (attends : timer.Attends after events) : after.callback = timer.callback := by
  cases attends with
  | silent _ callback => exact callback
  | told _ _ _ callback => exact callback

theorem Attends.frequency_eq {timer after : StepTimer κ} {events : List (PulseEvent κ)}
    (attends : timer.Attends after events) : after.frequency = timer.frequency := by
  cases attends with
  | silent _ _ frequency => exact frequency
  | told _ _ _ _ frequency => exact frequency

/-! ### The operations -/

theorem send_of_peripheral {timer : StepTimer κ} {peripheral : Peripheral}
    (h : timer.peripheral = some peripheral) (command : PeripheralCommand) :
    timer.send command =
      { answer := ()
        state := { timer with peripheral := some (peripheral.obey command) }
        events := [.command peripheral.tag command] } := by
  unfold send
  rw [h]

theorem Sound.exists_peripheral {timer : StepTimer κ} (sound : timer.Sound)
    (running : timer.running = true) : ∃ peripheral, timer.peripheral = some peripheral := by
  cases sound with
  | fresh => cases running
  | @fitted peripheral _ _ _ pos le => exact ⟨peripheral, rfl⟩

theorem Sound.stop_attends {timer : StepTimer κ} (sound : timer.Sound) :
    timer.Attends timer.stop.state timer.stop.events := by
  unfold StepTimer.stop
  split_ifs with hrunning
  · obtain ⟨peripheral, hperipheral⟩ := sound.exists_peripheral hrunning
    rw [send_of_peripheral hperipheral]
    exact .told hperipheral (hrunning ▸ .pause) rfl rfl rfl
  · exact .refl timer

theorem start_attends (timer : StepTimer κ) :
    timer.Attends timer.start.state timer.start.events := by
  unfold start
  split_ifs with hready hidle
  · exact .refl timer
  · exact .refl timer
  · obtain ⟨hstopped, hinstalled⟩ := not_or.mp (Bool.or_eq_true _ _ ▸ hidle)
    obtain ⟨peripheral, hperipheral⟩ : ∃ peripheral, timer.peripheral = some peripheral := by
      simpa [Option.isNone_iff_eq_none, Option.ne_none_iff_exists'] using hinstalled
    rw [send_of_peripheral hperipheral]
    exact .told hperipheral (Bool.eq_false_iff.mpr hstopped ▸ .resume) rfl rfl rfl

theorem setTicks_attends (timer : StepTimer κ) (ticks : Nat) :
    timer.Attends (timer.setTicks ticks).state (timer.setTicks ticks).events := by
  simp only [setTicks]
  split_ifs with hzero hready hidle
  · exact .refl timer
  · exact .refl timer
  · exact .silent rfl rfl rfl rfl
  · obtain ⟨hrate, hinstalled⟩ := not_or.mp (Bool.or_eq_true _ _ ▸ hidle)
    obtain ⟨peripheral, hperipheral⟩ : ∃ peripheral, timer.peripheral = some peripheral := by
      simpa [Option.isNone_iff_eq_none, Option.ne_none_iff_exists'] using hinstalled
    have hpos : 1 ≤ timer.frequency / ticks :=
      Nat.one_le_iff_ne_zero.mpr (by simpa using hrate)
    have hasked : ({ timer with ticks } : StepTimer κ).peripheral = some peripheral := hperipheral
    rw [send_of_peripheral hasked]
    exact .told hperipheral (.program hpos (Nat.div_le_self ..)) rfl rfl rfl

theorem reset_attends (timer : StepTimer κ) :
    timer.Attends timer.reset.state timer.reset.events := by
  unfold reset
  split_ifs with hcounter
  · obtain ⟨peripheral, hperipheral⟩ : ∃ peripheral, timer.peripheral = some peripheral := by
      refine Option.ne_none_iff_exists'.mp fun hnone ↦ ?_
      rw [hnone] at hcounter
      cases hcounter
    rw [send_of_peripheral hperipheral]
    exact .told hperipheral .resetCount rfl rfl rfl
  · exact .refl timer

theorem Sound.afterCallback_attends {timer : StepTimer κ} (sound : timer.Sound) (goOn : Bool) :
    timer.Attends (timer.afterCallback goOn).state (timer.afterCallback goOn).events := by
  cases goOn with
  | true => exact .refl timer
  | false => exact sound.stop_attends

/-- An operation that does not set the timer up attends to the peripheral in place. -/
theorem Sound.perform_attends {timer : StepTimer κ} (sound : timer.Sound) {op : TimerOp κ}
    (orderly : op.Orderly) (setUp : op.setUp? = none) (peripheral : Peripheral) :
    timer.Attends (op.perform peripheral timer).state (op.perform peripheral timer).events := by
  cases op with
  | init | initFrom => cases setUp
  | start => exact timer.start_attends
  | stop => exact sound.stop_attends
  | setTicks ticks => exact timer.setTicks_attends ticks
  | reset => exact timer.reset_attends
  | poke hertz => exact orderly.elim

/-! ### Setting the timer up -/

section SetUp

variable {op : TimerOp κ} {hertz : Nat} {callback : κ} (timer : StepTimer κ)
  (peripheral : Peripheral)

theorem setUp_refused (setUp : op.setUp? = some (0, callback)) :
    (op.perform peripheral timer).answer = .fault .zeroFrequency ∧
      (op.perform peripheral timer).state = timer ∧
      (op.perform peripheral timer).events = [] := by
  rw [TimerOp.perform_of_setUp? setUp]
  exact ⟨rfl, rfl, rfl⟩

/-- Setting the timer up puts a stopped timer over the new peripheral. -/
theorem setUp_granted (setUp : op.setUp? = some (hertz, callback)) (hne : hertz ≠ 0) :
    (op.perform peripheral timer).answer = .done ∧
      (op.perform peripheral timer).state =
        fitted ((peripheral.obey .pause).obey (.setFrequency hertz)) callback hertz 0 := by
  obtain ⟨hanswer, hstate⟩ := init_of_ne_zero hne timer peripheral callback
  rw [TimerOp.perform_of_setUp? setUp]
  exact ⟨congrArg PulseAnswer.ofResult hanswer, hstate⟩

/-- The old peripheral is told to pause if its interrupt is enabled, the new one in any case. -/
theorem setUp_events (setUp : op.setUp? = some (hertz, callback)) (hne : hertz ≠ 0) :
    (op.perform peripheral timer).events = timer.stop.events ++
      [.command peripheral.tag .pause, .command peripheral.tag (.setFrequency hertz),
        .log (.timerReady hertz)] := by
  rw [TimerOp.perform_of_setUp? setUp]
  change (timer.init peripheral hertz callback).events = _
  rw [init, if_neg hne]

/-- An operation sets the timer up, or it attends to the peripheral in place. One that was to set
the timer up and was refused does nothing at all. -/
theorem Sound.perform_cases {timer : StepTimer κ} (sound : timer.Sound) {op : TimerOp κ}
    (orderly : op.Orderly) (peripheral : Peripheral) :
    ((op.perform peripheral timer).answer = .done → op.setUp? = none) ∧
        timer.Attends (op.perform peripheral timer).state (op.perform peripheral timer).events ∨
      ∃ hertz callback, hertz ≠ 0 ∧ op.setUp? = some (hertz, callback) := by
  cases hop : op.setUp? with
  | none => exact .inl ⟨fun _ ↦ rfl, sound.perform_attends orderly hop peripheral⟩
  | some setting =>
    obtain ⟨hertz, callback⟩ := setting
    by_cases hzero : hertz = 0
    · subst hzero
      obtain ⟨hanswer, hstate, hevents⟩ := setUp_refused timer peripheral hop
      rw [hanswer, hstate, hevents]
      exact .inl ⟨nofun, .refl timer⟩
    · exact .inr ⟨hertz, callback, hzero, rfl⟩

end SetUp

end StepTimer

end MotionControl
