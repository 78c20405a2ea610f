import MotionControl.Proofs.History
import MotionControl.Proofs.Pulse.Course

/-!
# The state of a step timer

Between operations a step timer is either as it was made or over a peripheral, and then its rate and
whether it runs are what the peripheral was last told (`StepTimer.Sound`). Every operation keeps to
this form, and for a timer over a peripheral each has one equation that says what becomes of it.

The ticks and the rate depend on the history since the timer was last set up: the ticks are those
last granted, while the rate follows the last ticks that divide the base frequency at all
(`StepTimer.Timed`). `StepTimer.Lawful` puts this together, and every course of a timer that was
never set up is lawful.
-/

set_option autoImplicit false
set_option relaxedAutoImplicit false

namespace MotionControl

variable {κ : Type}

/-- Whether an operation is one of the timer's own; programming the peripheral past the timer is
not. -/
def TimerOp.Orderly : TimerOp κ → Prop
  | poke _ => False
  | _ => True

/-- The base frequency and the callback that an operation sets the timer up with. -/
def TimerOp.setUp? : TimerOp κ → Option (Nat × κ)
  | init hertz callback => some (hertz, callback)
  | initFrom settings callback => some (settings.timerFrequency.toNat, callback)
  | _ => none

/-- The two ways to set the timer up are one. -/
theorem TimerOp.perform_of_setUp? {op : TimerOp κ} {hertz : Nat} {callback : κ}
    (h : op.setUp? = some (hertz, callback)) (peripheral : Peripheral) (timer : StepTimer κ) :
    op.perform peripheral timer = (init hertz callback).perform peripheral timer := by
  cases op with
  | init | initFrom =>
    cases h
    rfl
  | _ => cases h

/-- A pause does nothing to a peripheral whose interrupt is disabled. -/
theorem Peripheral.obey_pause {peripheral : Peripheral} (h : peripheral.enabled = false) :
    peripheral.obey .pause = peripheral := by
  cases peripheral
  simp_all [obey]

/-- A resumption does nothing to a peripheral whose interrupt is enabled. -/
theorem Peripheral.obey_resume {peripheral : Peripheral} (h : peripheral.enabled = true) :
    peripheral.obey .resume = peripheral := by
  cases peripheral
  simp_all [obey]

namespace StepTimer

/-! ### Timers over a peripheral -/

/-- A timer that is set up. Its rate and whether it runs are what its peripheral was last told. -/
def fitted (peripheral : Peripheral) (callback : κ) (hertz ticks : Nat) : StepTimer κ where
  peripheral := some peripheral
  callback := some callback
  frequency := hertz
  rate := peripheral.frequency
  ticks
  running := peripheral.enabled

/-- A timer between operations: as it was made, or over a peripheral whose rate is at least one and
at most the base frequency. -/
inductive Sound : StepTimer κ → Prop
  | fresh : Sound {}
  | fitted {peripheral : Peripheral} {callback : κ} {hertz ticks : Nat}
      (pos : 1 ≤ peripheral.frequency) (le : peripheral.frequency ≤ hertz) :
      Sound (fitted peripheral callback hertz ticks)

theorem stop_running (timer : StepTimer κ) : timer.stop.state.running = false := by
  unfold stop
  split_ifs with h
  · rfl
  · simpa [Outcome.still] using h

/-- However the timer was, setting it up gives a stopped timer over the new peripheral. -/
theorem init_of_ne_zero {hertz : Nat} (h : hertz ≠ 0) (timer : StepTimer κ)
    (peripheral : Peripheral) (callback : κ) :
    (timer.init peripheral hertz callback).answer = .ok () ∧
      (timer.init peripheral hertz callback).state =
        fitted ((peripheral.obey .pause).obey (.setFrequency hertz)) callback hertz 0 := by
  simp [init, h, fitted, Peripheral.obey, stop_running]

section Fitted

variable (peripheral : Peripheral) (callback : κ) (hertz ticks : Nat)

theorem stop_fitted : (fitted peripheral callback hertz ticks).stop.state =
    fitted (peripheral.obey .pause) callback hertz ticks := by
  by_cases h : peripheral.enabled = true
  · simp [stop, fitted, send, Peripheral.obey, h]
  · rw [Peripheral.obey_pause ((Bool.not_eq_true _).mp h)]
    simp [stop, fitted, Outcome.still, h]

theorem start_fitted (h : hertz ≠ 0) :
    (fitted peripheral callback hertz ticks).start.answer = .ok () ∧
      (fitted peripheral callback hertz ticks).start.state =
        fitted (peripheral.obey .resume) callback hertz ticks := by
  by_cases henabled : peripheral.enabled = true
  · rw [Peripheral.obey_resume henabled]
    simp [start, isInitialized, fitted, Outcome.still, h, henabled]
  · simp [start, isInitialized, fitted, send, Peripheral.obey, h, henabled]

theorem setTicks_fitted (h : hertz ≠ 0) {asked : Nat} (hasked : asked ≠ 0) :
    ((fitted peripheral callback hertz ticks).setTicks asked).answer = .ok () ∧
      ((fitted peripheral callback hertz ticks).setTicks asked).state =
        if hertz / asked = 0 then fitted peripheral callback hertz asked
        else fitted (peripheral.obey (.setFrequency (hertz / asked))) callback hertz asked := by
  by_cases hrate : hertz / asked = 0
  · simp [setTicks, isInitialized, fitted, Outcome.still, h, hasked, hrate]
  · simp [setTicks, isInitialized, fitted, send, Peripheral.obey, h, hasked, hrate]

theorem reset_fitted : (fitted peripheral callback hertz ticks).reset.state =
    fitted (if peripheral.hasCounter then peripheral.obey .resetCount else peripheral) callback
      hertz ticks := by
  by_cases h : peripheral.hasCounter
  · simp [reset, fitted, send, Peripheral.obey, h]
  · simp [reset, fitted, Outcome.still, h]

end Fitted

/-! ### What the operations leave alone -/

/-- A command to the peripheral leaves the base frequency, the rate and the ticks as they are. -/
theorem send_timing (timer : StepTimer κ) (command : PeripheralCommand) :
    (timer.send command).state.frequency = timer.frequency ∧
      (timer.send command).state.rate = timer.rate ∧
      (timer.send command).state.ticks = timer.ticks := by
  unfold send
  split <;> exact ⟨rfl, rfl, rfl⟩

theorem stop_timing (timer : StepTimer κ) :
    timer.stop.state.frequency = timer.frequency ∧ timer.stop.state.rate = timer.rate ∧
      timer.stop.state.ticks = timer.ticks := by
  unfold stop
  split_ifs
  · exact send_timing timer .pause
  · exact ⟨rfl, rfl, rfl⟩

theorem start_timing (timer : StepTimer κ) :
    timer.start.state.frequency = timer.frequency ∧ timer.start.state.rate = timer.rate ∧
      timer.start.state.ticks = timer.ticks := by
  unfold start
  split_ifs
  · exact ⟨rfl, rfl, rfl⟩
  · exact ⟨rfl, rfl, rfl⟩
  · exact send_timing timer .resume

theorem reset_timing (timer : StepTimer κ) :
    timer.reset.state.frequency = timer.frequency ∧ timer.reset.state.rate = timer.rate ∧
      timer.reset.state.ticks = timer.ticks := by
  unfold reset
  split_ifs
  · exact send_timing timer .resetCount
  · exact ⟨rfl, rfl, rfl⟩

theorem setTicks_running (timer : StepTimer κ) (ticks : Nat) :
    (timer.setTicks ticks).state.running = timer.running := by
  simp only [setTicks]
  split_ifs
  · rfl
  · rfl
  · rfl
  · obtain ⟨installed, _⟩ := timer
    cases installed <;> rfl

/-- A timer that runs after a start ran before, or the start was granted. -/
theorem start_answer {timer : StepTimer κ} (h : timer.start.state.running = true) :
    timer.running = true ∨ timer.start.answer = .ok () := by
  by_cases hready : timer.isInitialized = true
  · refine .inr ?_
    simp only [start, hready, Bool.not_true, Bool.false_eq_true, if_false]
    split_ifs <;> rfl
  · exact .inl (by simpa [start, hready, Outcome.still] using h)

/-- An interrupt calls a callback only while the timer runs, and then the one in place. -/
theorem running_of_dispatch? {timer : StepTimer κ} {callback : κ}
    (h : timer.dispatch? = some callback) :
    timer.running = true ∧ timer.callback = some callback := by
  unfold dispatch? at h
  split_ifs at h with hrunning
  exact ⟨hrunning, h⟩

/-- A sound timer that runs has a callback for the interrupt. -/
theorem Sound.exists_dispatch? {timer : StepTimer κ} (sound : timer.Sound)
    (running : timer.running = true) : ∃ callback, timer.dispatch? = some callback := by
  cases sound with
  | fresh => cases running
  | @fitted _ callback _ _ pos le => exact ⟨callback, if_pos running⟩

/-! ### Every operation keeps the form of the state -/

theorem Sound.init {timer : StepTimer κ} (sound : timer.Sound) (peripheral : Peripheral)
    (hertz : Nat) (callback : κ) : (timer.init peripheral hertz callback).state.Sound := by
  rcases Nat.eq_zero_or_pos hertz with rfl | hpos
  · exact sound
  · rw [(init_of_ne_zero hpos.ne' timer peripheral callback).2]
    exact .fitted hpos le_rfl

theorem Sound.stop {timer : StepTimer κ} (sound : timer.Sound) : timer.stop.state.Sound := by
  cases sound with
  | fresh => exact .fresh
  | fitted pos le =>
    rw [stop_fitted]
    exact .fitted pos le

theorem Sound.start {timer : StepTimer κ} (sound : timer.Sound) : timer.start.state.Sound := by
  cases sound with
  | fresh => exact .fresh
  | fitted pos le =>
    rw [(start_fitted _ _ _ _ (by omega)).2]
    exact .fitted pos le

theorem Sound.setTicks {timer : StepTimer κ} (sound : timer.Sound) (asked : Nat) :
    (timer.setTicks asked).state.Sound := by
  by_cases hasked : asked = 0
  · rw [hasked]
    exact sound
  · cases sound with
    | fresh =>
      simp only [StepTimer.setTicks, hasked]
      exact .fresh
    | @fitted peripheral callback hertz ticks pos le =>
      rw [(setTicks_fitted _ _ _ _ (by omega) hasked).2]
      split_ifs with hrate
      · exact .fitted pos le
      · exact .fitted (Nat.one_le_iff_ne_zero.mpr hrate) (Nat.div_le_self ..)

theorem Sound.reset {timer : StepTimer κ} (sound : timer.Sound) : timer.reset.state.Sound := by
  cases sound with
  | fresh => exact .fresh
  | @fitted peripheral callback hertz ticks pos le =>
    rw [reset_fitted]
    split_ifs
    · exact .fitted pos le
    · exact .fitted pos le

theorem Sound.afterCallback {timer : StepTimer κ} (sound : timer.Sound) (goOn : Bool) :
    (timer.afterCallback goOn).state.Sound := by
  cases goOn with
  | true => exact sound
  | false => exact sound.stop

/-- Every operation of the timer's own keeps the form of its state. -/
theorem Sound.perform {timer : StepTimer κ} (sound : timer.Sound) {op : TimerOp κ}
    (orderly : op.Orderly) (peripheral : Peripheral) :
    (op.perform peripheral timer).state.Sound := by
  cases op with
  | init hertz callback => exact sound.init peripheral hertz callback
  | initFrom settings callback => exact sound.init peripheral _ callback
  | start => exact sound.start
  | stop => exact sound.stop
  | setTicks ticks => exact sound.setTicks ticks
  | reset => exact sound.reset
  | poke hertz => exact orderly.elim

end StepTimer

/-! ### The history since the timer was set up -/

namespace Deed

/-- Whether the timer was set up. -/
def setsUp (deed : Deed (StepTimer κ) (TimerOp κ) κ) : Bool :=
  deed.granted && deed.op?.any TimerOp.installs

/-- The ticks that were asked for, granted or not. -/
def askedTicks? : Deed (StepTimer κ) (TimerOp κ) κ → Option Nat
  | called (.setTicks ticks) _ _ _ => some ticks
  | _ => none

/-- The ticks that were asked for and granted. -/
def grantedTicks? (deed : Deed (StepTimer κ) (TimerOp κ) κ) : Option Nat :=
  if deed.granted then deed.askedTicks? else none

/-- The ticks that were asked for, if they divide a base frequency down to a rate. -/
def divisor? (hertz : Nat) (deed : Deed (StepTimer κ) (TimerOp κ) κ) : Option Nat :=
  deed.askedTicks?.filter fun ticks ↦ 1 ≤ ticks ∧ ticks ≤ hertz

end Deed

namespace StepTimer

/-- The ticks and the rate of a timer as its history since it was set up has them. -/
structure Timed (history : List (Deed (StepTimer κ) (TimerOp κ) κ)) (timer : StepTimer κ) :
    Prop where
  /-- The ticks are those last granted. -/
  ticks : timer.ticks = (latest? Deed.grantedTicks? (since Deed.setsUp history)).getD 0
  /-- The rate divides the base frequency by the last ticks asked for that divide it at all. -/
  rate : timer.frequency ≠ 0 → timer.rate = timer.frequency /
    (latest? (Deed.divisor? timer.frequency) (since Deed.setsUp history)).getD 1

variable {history : List (Deed (StepTimer κ) (TimerOp κ) κ)} {timer : StepTimer κ}

/-- A deed that neither sets the timer up, nor grants ticks, nor asks for ticks that divide the base
frequency leaves ticks and rate to the history before it, if the timer keeps them. -/
theorem Timed.concat (timed : Timed history timer) {after : StepTimer κ}
    {deed : Deed (StepTimer κ) (TimerOp κ) κ} (setsUp : deed.setsUp = false)
    (granted : deed.grantedTicks? = none) (divisor : deed.divisor? timer.frequency = none)
    (frequency : after.frequency = timer.frequency) (rate : after.rate = timer.rate)
    (ticks : after.ticks = timer.ticks) : Timed (history ++ [deed]) after := by
  constructor
  · rw [ticks, since_concat _ setsUp, latest?_concat, granted, timed.ticks]
    rfl
  · intro h
    rw [frequency] at h ⊢
    rw [rate, since_concat _ setsUp, latest?_concat, divisor, timed.rate h]
    rfl

/-- A deed that neither sets the timer up nor asks for ticks. -/
theorem Timed.concat_of_askedTicks? (timed : Timed history timer) {after : StepTimer κ}
    {deed : Deed (StepTimer κ) (TimerOp κ) κ} (setsUp : deed.setsUp = false)
    (asked : deed.askedTicks? = none) (frequency : after.frequency = timer.frequency)
    (rate : after.rate = timer.rate) (ticks : after.ticks = timer.ticks) :
    Timed (history ++ [deed]) after :=
  timed.concat setsUp (by simp [Deed.grantedTicks?, asked]) (by simp [Deed.divisor?, asked])
    frequency rate ticks

/-- A deed that grants ticks: the timer takes them, and its rate follows them if they divide the
base frequency. -/
theorem Timed.concat_of_grantedTicks? (timed : Timed history timer) {after : StepTimer κ}
    {deed : Deed (StepTimer κ) (TimerOp κ) κ} (setsUp : deed.setsUp = false)
    (granted : deed.grantedTicks? = some after.ticks)
    (frequency : after.frequency = timer.frequency)
    (rate : after.rate = (deed.divisor? timer.frequency).elim timer.rate (timer.frequency / ·)) :
    Timed (history ++ [deed]) after := by
  constructor
  · rw [since_concat _ setsUp, latest?_concat, granted]
    rfl
  · intro h
    rw [frequency] at h ⊢
    rw [rate, since_concat _ setsUp, latest?_concat]
    cases deed.divisor? timer.frequency with
    | none => exact timed.rate h
    | some divisor => rfl

/-- Setting the timer up starts its history afresh; if it is refused, nothing changes. -/
theorem Timed.setUp (timed : Timed history timer) {op : TimerOp κ} {peripheral : Peripheral}
    {hertz : Nat} {callback : κ} (installs : op.installs = true)
    (performed : op.perform peripheral timer =
      (TimerOp.init hertz callback).perform peripheral timer) :
    Timed (history ++ [.called op peripheral timer (op.perform peripheral timer)])
      (op.perform peripheral timer).state := by
  rw [performed]
  by_cases hzero : hertz = 0
  · subst hzero
    refine timed.concat_of_askedTicks? rfl ?_ rfl rfl rfl
    cases op with
    | setTicks ticks => simp [TimerOp.installs] at installs
    | _ => rfl
  · obtain ⟨hanswer, hstate⟩ := init_of_ne_zero hzero timer peripheral callback
    have hfitted : ((TimerOp.init hertz callback).perform peripheral timer).state =
        fitted ((peripheral.obey .pause).obey (.setFrequency hertz)) callback hertz 0 := hstate
    have hset : (Deed.called op peripheral timer
        ((TimerOp.init hertz callback).perform peripheral timer)).setsUp = true := by
      simp [Deed.setsUp, Deed.granted, Deed.op?, TimerOp.perform, PulseAnswer.ofResult, hanswer,
        installs]
    rw [hfitted]
    constructor
    · rw [since_concat_of_resets _ hset]
      rfl
    · intro _
      rw [since_concat_of_resets _ hset]
      exact (Nat.div_one hertz).symm

/-- Granted ticks are the ticks from then on, and the rate follows them if they divide the base
frequency; ticks that are refused change nothing. -/
theorem Timed.setTicks (timed : Timed history timer) (sound : timer.Sound) (asked : Nat)
    (peripheral : Peripheral) :
    Timed (history ++ [.called (.setTicks asked) peripheral timer
        ((TimerOp.setTicks asked).perform peripheral timer)])
      (timer.setTicks asked).state := by
  have hset : (Deed.called (.setTicks asked) peripheral timer
      ((TimerOp.setTicks asked).perform peripheral timer)).setsUp = false := by
    simp [Deed.setsUp, Deed.op?, TimerOp.installs]
  by_cases hasked : asked = 0
  · subst hasked
    exact timed.concat hset rfl rfl rfl rfl rfl
  have hdivisor (hertz : Nat) : (Deed.called (.setTicks asked) peripheral timer
      ((TimerOp.setTicks asked).perform peripheral timer)).divisor? hertz =
        if asked ≤ hertz then some asked else none := by
    simp [Deed.divisor?, Deed.askedTicks?, Option.filter, Nat.one_le_iff_ne_zero, hasked]
  cases sound with
  | fresh =>
    refine timed.concat hset ?_ ((hdivisor 0).trans (by simp [hasked])) ?_ ?_ ?_
    · simp [Deed.grantedTicks?, Deed.granted, TimerOp.perform, StepTimer.setTicks, hasked,
        isInitialized, Outcome.still, PulseAnswer.ofResult]
    all_goals simp [StepTimer.setTicks, hasked, isInitialized, Outcome.still]
  | @fitted installed callback hertz ticks pos le =>
    obtain ⟨hanswer, hstate⟩ := setTicks_fitted installed callback hertz ticks (by omega) hasked
    have hgranted : (Deed.called (.setTicks asked) peripheral
        (fitted installed callback hertz ticks) ((TimerOp.setTicks asked).perform peripheral
          (fitted installed callback hertz ticks))).grantedTicks? = some asked := by
      simp [Deed.grantedTicks?, Deed.granted, Deed.askedTicks?, TimerOp.perform,
        PulseAnswer.ofResult, hanswer]
    by_cases hlarge : hertz < asked
    · rw [hstate, if_pos (Nat.div_eq_of_lt hlarge)]
      refine timed.concat_of_grantedTicks? hset hgranted rfl ?_
      rw [show (fitted installed callback hertz ticks).frequency = hertz from rfl, hdivisor,
        if_neg (Nat.not_le.mpr hlarge)]
      rfl
    · have hquotient : hertz / asked ≠ 0 := by
        rw [Ne, Nat.div_eq_zero_iff]
        omega
      rw [hstate, if_neg hquotient]
      refine timed.concat_of_grantedTicks? hset hgranted rfl ?_
      rw [show (fitted installed callback hertz ticks).frequency = hertz from rfl, hdivisor,
        if_pos (Nat.not_lt.mp hlarge)]
      rfl

/-- Every operation of the timer's own keeps ticks and rate to the history. -/
theorem Timed.perform (timed : Timed history timer) (sound : timer.Sound) {op : TimerOp κ}
    (orderly : op.Orderly) (peripheral : Peripheral) :
    Timed (history ++ [.called op peripheral timer (op.perform peripheral timer)])
      (op.perform peripheral timer).state := by
  cases op with
  | init hertz callback => exact timed.setUp rfl rfl
  | initFrom settings callback => exact timed.setUp rfl rfl
  | start =>
    obtain ⟨hfrequency, hrate, hticks⟩ := start_timing timer
    exact timed.concat_of_askedTicks? (by simp [Deed.setsUp, Deed.op?, TimerOp.installs]) rfl
      hfrequency hrate hticks
  | stop =>
    obtain ⟨hfrequency, hrate, hticks⟩ := stop_timing timer
    exact timed.concat_of_askedTicks? (by simp [Deed.setsUp, Deed.op?, TimerOp.installs]) rfl
      hfrequency hrate hticks
  | setTicks ticks => exact timed.setTicks sound ticks peripheral
  | reset =>
    obtain ⟨hfrequency, hrate, hticks⟩ := reset_timing timer
    exact timed.concat_of_askedTicks? (by simp [Deed.setsUp, Deed.op?, TimerOp.installs]) rfl
      hfrequency hrate hticks
  | poke hertz => exact orderly.elim

/-! ### Courses of a timer -/

/-- What holds of a course of a sound timer and is kept by each deed of a sound timer holds after
all orderly moves. -/
theorem Sound.run_induction {P : Course (StepTimer κ) (TimerOp κ) κ → Prop}
    (course : Course (StepTimer κ) (TimerOp κ) κ) (sound : course.device.Sound) (start : P course)
    (called : ∀ (course : Course (StepTimer κ) (TimerOp κ) κ) op peripheral,
      course.device.Sound → op.Orderly → P course → P (course.call op peripheral))
    (passed : ∀ course : Course (StepTimer κ) (TimerOp κ) κ,
      course.device.dispatch? = none → P course →
        P { course with history := course.history ++ [.passed] })
    (entered : ∀ (course : Course (StepTimer κ) (TimerOp κ) κ) (callback : κ),
      course.device.dispatch? = some callback → P course →
        P { course with
          underway := course.underway + 1
          history := course.history ++ [.entered callback] })
    (left : ∀ (course : Course (StepTimer κ) (TimerOp κ) κ) (underway : Nat) (goOn : Bool),
      course.device.Sound → P course →
        P { device := (course.device.afterCallback goOn).state
            underway
            history := course.history ++ [.left goOn (course.device.afterCallback goOn)] })
    {moves : List (PulseMove (TimerOp κ))} (orderly : ∀ move ∈ moves, move.Within TimerOp.Orderly) :
    (course.run moves).device.Sound ∧ P (course.run moves) := by
  refine Course.run_induction_deeds
    (P := fun course : Course (StepTimer κ) (TimerOp κ) κ ↦ course.device.Sound ∧ P course)
    ⟨sound, start⟩ ?_ ?_ ?_ ?_ orderly
  · intro course op peripheral hop ⟨hsound, hcourse⟩
    exact ⟨hsound.perform hop peripheral, called course op peripheral hsound hop hcourse⟩
  · intro course hidle ⟨hsound, hcourse⟩
    exact ⟨hsound, passed course hidle hcourse⟩
  · intro course callback hcall ⟨hsound, hcourse⟩
    exact ⟨hsound, entered course callback hcall hcourse⟩
  · intro course underway goOn ⟨hsound, hcourse⟩
    exact ⟨hsound.afterCallback goOn, left course underway goOn hsound hcourse⟩

theorem Sound.run {course : Course (StepTimer κ) (TimerOp κ) κ} (sound : course.device.Sound)
    {moves : List (PulseMove (TimerOp κ))} (orderly : ∀ move ∈ moves, move.Within TimerOp.Orderly) :
    (course.run moves).device.Sound :=
  (Sound.run_induction (P := fun _ ↦ True) course sound trivial (fun _ _ _ _ _ _ ↦ trivial)
    (fun _ _ _ ↦ trivial) (fun _ _ _ _ ↦ trivial) (fun _ _ _ _ _ ↦ trivial) orderly).1

/-- The state is of its form, and ticks and rate are those of the history. -/
def InForm (course : Course (StepTimer κ) (TimerOp κ) κ) : Prop :=
  course.device.Sound ∧ Timed course.history course.device

theorem InForm.call {course : Course (StepTimer κ) (TimerOp κ) κ} (inForm : InForm course)
    {op : TimerOp κ} (orderly : op.Orderly) (peripheral : Peripheral) :
    InForm (course.call op peripheral) :=
  ⟨inForm.1.perform orderly peripheral, inForm.2.perform inForm.1 orderly peripheral⟩

theorem InForm.interrupt {course : Course (StepTimer κ) (TimerOp κ) κ} (inForm : InForm course) :
    InForm course.interrupt := by
  unfold Course.interrupt
  cases PulseDevice.dispatch? course.device with
  | none => exact ⟨inForm.1, inForm.2.concat_of_askedTicks? rfl rfl rfl rfl rfl⟩
  | some callback => exact ⟨inForm.1, inForm.2.concat_of_askedTicks? rfl rfl rfl rfl rfl⟩

theorem InForm.leave {course : Course (StepTimer κ) (TimerOp κ) κ} (inForm : InForm course)
    (goOn : Bool) : InForm (course.leave goOn) := by
  unfold Course.leave
  split
  · exact inForm
  · refine ⟨inForm.1.afterCallback goOn, ?_⟩
    cases goOn with
    | true => exact inForm.2.concat_of_askedTicks? rfl rfl rfl rfl rfl
    | false =>
      obtain ⟨hfrequency, hrate, hticks⟩ := stop_timing course.device
      exact inForm.2.concat_of_askedTicks? rfl rfl hfrequency hrate hticks

/-- Every course of a timer that was never set up keeps state, ticks and rate in form. -/
theorem inForm_along {moves : List (PulseMove (TimerOp κ))}
    (orderly : ∀ move ∈ moves, move.Within TimerOp.Orderly) :
    InForm (Course.along ({} : StepTimer κ) moves) :=
  Course.run_induction (P := InForm) ⟨.fresh, ⟨rfl, fun h ↦ absurd rfl h⟩⟩
    (fun _ _ peripheral hop h ↦ h.call hop peripheral) (fun _ h ↦ h.interrupt)
    (fun _ goOn h ↦ h.leave goOn) orderly

/-- What a refused operation comes to: nothing happens and the timer stays as it was. -/
theorem perform_fault {timer : StepTimer κ} {op : TimerOp κ} {peripheral : Peripheral}
    {fault : TimerFault} (h : (op.perform peripheral timer).answer = .fault fault) :
    (op.perform peripheral timer).state = timer ∧ (op.perform peripheral timer).events = [] := by
  have hinit (hertz : Nat) (callback : κ)
      (h : PulseAnswer.ofResult (timer.init peripheral hertz callback).answer = .fault fault) :
      (timer.init peripheral hertz callback).state = timer ∧
        (timer.init peripheral hertz callback).events = [] := by
    by_cases hertz0 : hertz = 0
    · subst hertz0
      exact ⟨rfl, rfl⟩
    · rw [(init_of_ne_zero hertz0 timer peripheral callback).1] at h
      cases h
  cases op with
  | init hertz callback => exact hinit hertz callback h
  | initFrom settings callback => exact hinit _ callback h
  | start =>
    simp only [TimerOp.perform, StepTimer.start] at h ⊢
    split_ifs at h ⊢
    · exact ⟨rfl, rfl⟩
    · cases h
    · cases h
  | stop => cases h
  | setTicks ticks =>
    simp only [TimerOp.perform, StepTimer.setTicks] at h ⊢
    split_ifs at h ⊢
    · exact ⟨rfl, rfl⟩
    · exact ⟨rfl, rfl⟩
    · cases h
    · cases h
  | reset => cases h
  | poke hertz =>
    obtain ⟨installed, _⟩ := timer
    cases installed <;> cases h

/-- What holds of a step timer and of the history that led to it. -/
structure Lawful (history : List (Deed (StepTimer κ) (TimerOp κ) κ)) (timer : StepTimer κ) :
    Prop where
  peripheral_iff : timer.peripheral.isSome = true ↔ timer.frequency ≠ 0
  callback_iff : timer.callback.isSome = true ↔ timer.frequency ≠ 0
  initialized_of_running : timer.running = true → timer.isInitialized = true
  /-- The timer runs exactly when the interrupt of its peripheral is enabled. -/
  running_iff : timer.running = true ↔
    ∃ peripheral, timer.peripheral = some peripheral ∧ peripheral.enabled = true
  /-- The rate is the one last programmed into the peripheral. -/
  rate_programmed : ∀ peripheral, timer.peripheral = some peripheral →
    peripheral.frequency = timer.rate
  /-- The ticks are those last granted since the timer was set up. -/
  ticks_eq : timer.ticks = (latest? Deed.grantedTicks? (since Deed.setsUp history)).getD 0
  /-- The rate divides the base frequency by the last ticks asked for that divide it at all. -/
  rate_eq : timer.frequency ≠ 0 → timer.rate = timer.frequency /
    (latest? (Deed.divisor? timer.frequency) (since Deed.setsUp history)).getD 1
  rate_range : timer.frequency ≠ 0 → 1 ≤ timer.rate ∧ timer.rate ≤ timer.frequency
  /-- An operation that fails leaves everything as it was. -/
  refused : ∀ (op : TimerOp κ) peripheral fault,
    (op.perform peripheral timer).answer = .fault fault →
      (op.perform peripheral timer).state = timer

theorem Sound.lawful (sound : timer.Sound) (timed : Timed history timer) :
    Lawful history timer := by
  cases sound with
  | fresh =>
    exact
      { peripheral_iff := by simp
        callback_iff := by simp
        initialized_of_running := by simp
        running_iff := by simp
        rate_programmed := by simp
        ticks_eq := timed.ticks
        rate_eq := timed.rate
        rate_range := by simp
        refused := fun _ _ _ h ↦ (perform_fault h).1 }
  | @fitted installed callback hertz ticks pos le =>
    have hne : hertz ≠ 0 := by omega
    exact
      { peripheral_iff := by simp [StepTimer.fitted, hne]
        callback_iff := by simp [StepTimer.fitted, hne]
        initialized_of_running := by simp [StepTimer.fitted, isInitialized, hne]
        running_iff := by simp [StepTimer.fitted]
        rate_programmed := by simp [StepTimer.fitted]
        ticks_eq := timed.ticks
        rate_eq := timed.rate
        rate_range := fun _ ↦ ⟨pos, le⟩
        refused := fun _ _ _ h ↦ (perform_fault h).1 }

/-- Every course of a timer that was never set up is lawful, whatever its callbacks do in it. -/
theorem along_lawful {moves : List (PulseMove (TimerOp κ))}
    (orderly : ∀ move ∈ moves, move.Within TimerOp.Orderly) :
    Lawful (Course.along ({} : StepTimer κ) moves).history
      (Course.along ({} : StepTimer κ) moves).device :=
  (inForm_along orderly).1.lawful (inForm_along orderly).2

/-- A callback asks for ticks beyond the base frequency while it is under way. -/
def ticksBeyondFrequency : List (PulseMove (TimerOp String)) :=
  [.call (.init 1000 "step") ⟨1, true, 7, true, 0⟩, .call (.setTicks 10) ⟨2, true, 0, false, 0⟩,
    .call .start ⟨2, true, 0, false, 0⟩, .interrupt,
    .call (.setTicks 5000) ⟨2, true, 0, false, 0⟩, .call (.setTicks 0) ⟨2, true, 0, false, 0⟩,
    .leave true]

theorem along_lawful_ticksBeyondFrequency :
    (∀ move ∈ ticksBeyondFrequency, move.Within TimerOp.Orderly) ∧
      Lawful (Course.along ({} : StepTimer String) ticksBeyondFrequency).history
        (Course.along ({} : StepTimer String) ticksBeyondFrequency).device ∧
      (Course.along ({} : StepTimer String) ticksBeyondFrequency).device =
        fitted ⟨1, true, 100, true, 0⟩ "step" 1000 5000 := by
  have orderly : ∀ move ∈ ticksBeyondFrequency, move.Within TimerOp.Orderly := by
    simp [ticksBeyondFrequency, PulseMove.Within, TimerOp.Orderly]
  exact ⟨orderly, along_lawful orderly, rfl⟩

end StepTimer

end MotionControl
