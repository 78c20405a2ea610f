import MotionControl.Proofs.Pulse.Commands
import MotionControl.Proofs.Pulse.Gate

/-!
# What a step engine refuses

The gate of a step engine is only open over a timer that was set up, because opening it asks for
that and nothing ever undoes it (`StepEngine.prepared_along`). So of the faults of the timer only a
request for no ticks comes through the gate, starting never fails, and the rest of what the engine
refuses can be told from its history and the settings (`StepEngine.refusals_along`): to open the
gate before it was ever set up, and to be set up with a base frequency of zero. A refusal does
nothing, but that the latter leaves the gate closed.
-/

set_option autoImplicit false
set_option relaxedAutoImplicit false

namespace MotionControl

variable {κ : Type}

/-! ### Timers that were set up -/

namespace StepTimer

/-- A sound timer that was set up starts. -/
theorem Sound.start_of_isInitialized {timer : StepTimer κ} (sound : timer.Sound)
    (ready : timer.isInitialized = true) :
    timer.start.answer = .ok () ∧ timer.start.state.running = true := by
  cases sound with
  | fresh => cases ready
  | @fitted peripheral callback hertz ticks pos le =>
    obtain ⟨hanswer, hstate⟩ := start_fitted peripheral callback hertz ticks (by omega)
    exact ⟨hanswer, by rw [hstate]; rfl⟩

/-- A sound timer that was set up takes any number of ticks but zero. -/
theorem Sound.setTicks_of_isInitialized {timer : StepTimer κ} (sound : timer.Sound)
    (ready : timer.isInitialized = true) {ticks : Nat} (h : ticks ≠ 0) :
    (timer.setTicks ticks).answer = .ok () := by
  cases sound with
  | fresh => cases ready
  | @fitted peripheral callback hertz _ pos le =>
    exact (setTicks_fitted peripheral callback hertz _ (by omega) h).1

end StepTimer

/-- The engine was set up. -/
def Deed.equips : Deed (StepEngine κ) (EngineOp κ) κ → Bool
  | called (.init ..) _ _ outcome => outcome.answer == .done
  | _ => false

namespace StepEngine

/-! ### One operation -/

/-- An operation fails exactly under the condition, and comes then to nothing but the fault and the
state that it leaves. -/
structure Refuses (outcome : Result κ (Except TimerFault Unit)) (condition : Prop)
    (fault : TimerFault) (left : StepEngine κ) : Prop where
  fails_iff : (∃ reason, outcome.answer = .error reason) ↔ condition
  failing : condition → outcome = .still (.error fault) left

theorem Refuses.intro {outcome : Result κ (Except TimerFault Unit)} {condition : Prop}
    {fault : TimerFault} {left : StepEngine κ}
    (failing : condition → outcome = .still (.error fault) left)
    (granted : ¬ condition → outcome.answer = .ok ()) : Refuses outcome condition fault left where
  fails_iff := by
    constructor
    · rintro ⟨reason, hreason⟩
      by_contra h
      cases hreason.symm.trans (granted h)
    · exact fun h ↦ ⟨fault, by rw [failing h]; rfl⟩
  failing := failing

theorem init_refuses (engine : StepEngine κ) (peripheral : Peripheral)
    (settings : SteppingSettings) (callback : κ) :
    Refuses (engine.init peripheral settings callback) (settings.timerFrequency = 0)
      .zeroFrequency { engine with enabled := false } := by
  refine .intro (fun h ↦ ?_) fun h ↦ ?_
  · rw [init, onTimer, StepTimer.initFrom, h]
    rfl
  · have hne : settings.timerFrequency.toNat ≠ 0 := fun hzero ↦ h (UInt32.toNat_inj.mp hzero)
    exact (StepTimer.init_of_ne_zero hne engine.timer peripheral callback).1

theorem enable_refuses (engine : StepEngine κ) :
    Refuses engine.enable (engine.timer.isInitialized = false) .notInitialized engine := by
  refine .intro (fun h ↦ ?_) fun h ↦ ?_
  · simp [enable, h]
  · simp [enable, h]

theorem isInitialized_of_enable {engine : StepEngine κ} {peripheral : Peripheral}
    (h : (EngineOp.enable.perform peripheral engine).answer = .done) :
    engine.timer.isInitialized = true := by
  by_contra hready
  rw [Bool.not_eq_true] at hready
  rw [EngineOp.perform, (enable_refuses engine).failing hready] at h
  cases h

/-- Only setting the engine up touches the base frequency of its timer. -/
theorem frequency_perform (engine : StepEngine κ) {op : EngineOp κ} (gated : op.Gated)
    (keeps : op.installs = false) (peripheral : Peripheral) :
    (op.perform peripheral engine).state.timer.frequency = engine.timer.frequency := by
  cases op with
  | init => cases keeps
  | enable =>
    simp only [EngineOp.perform, enable]
    split_ifs
    all_goals rfl
  | disable =>
    simp only [EngineOp.perform, disable]
    split_ifs
    · exact (StepTimer.stop_timing engine.timer).1
    · rfl
  | setTiming ticks =>
    rw [perform_request engine peripheral rfl]
    split
    · exact (engine.timer.setTicks_attends ticks).frequency_eq
    · rfl
  | start =>
    rw [perform_request engine peripheral rfl]
    split
    · exact (StepTimer.start_timing engine.timer).1
    · rfl
  | stop =>
    rw [perform_request engine peripheral rfl]
    split
    · exact (StepTimer.stop_timing engine.timer).1
    · rfl
  | timer => exact gated.elim

/-- The timer is set up after an operation if it was before or is by the operation. -/
theorem isInitialized_perform (engine : StepEngine κ) {op : EngineOp κ} (gated : op.Gated)
    (peripheral : Peripheral) :
    (op.perform peripheral engine).state.timer.isInitialized =
      (engine.timer.isInitialized ||
        (Deed.called op peripheral engine (op.perform peripheral engine)).equips) := by
  cases op with
  | init settings callback =>
    have hrefuses := init_refuses engine peripheral settings callback
    by_cases hzero : settings.timerFrequency = 0
    · simp [EngineOp.perform, hrefuses.failing hzero, Outcome.still, Deed.equips,
        PulseAnswer.ofResult]
    · have hne : settings.timerFrequency.toNat ≠ 0 := fun h ↦ hzero (UInt32.toNat_inj.mp h)
      obtain ⟨hanswer, hstate⟩ :=
        StepTimer.init_of_ne_zero hne engine.timer peripheral callback
      simp [EngineOp.perform, init, onTimer, StepTimer.initFrom, hanswer, hstate, Deed.equips,
        PulseAnswer.ofResult, StepTimer.isInitialized, StepTimer.fitted, hne]
  | enable | disable | setTiming | start | stop =>
    rw [StepTimer.isInitialized, frequency_perform engine gated rfl]
    exact (Bool.or_false _).symm
  | timer => exact gated.elim

/-! ### Courses of an engine -/

/-- The timer is set up exactly if the history set it up, and the gate is only open over such a
timer. -/
structure Prepared (course : Course (StepEngine κ) (EngineOp κ) κ) : Prop where
  sound : course.device.timer.Sound
  equipped : course.device.timer.isInitialized = course.history.any Deed.equips
  opened : course.device.enabled = true → course.device.timer.isInitialized = true

theorem Prepared.call {course : Course (StepEngine κ) (EngineOp κ) κ} (prepared : Prepared course)
    {op : EngineOp κ} (gated : op.Gated) (peripheral : Peripheral) :
    Prepared (course.call op peripheral) := by
  let deed := Deed.called op peripheral course.device (op.perform peripheral course.device)
  have hready : (course.call op peripheral).device.timer.isInitialized =
      (course.device.timer.isInitialized || deed.equips) :=
    isInitialized_perform course.device gated peripheral
  refine ⟨timer_sound_perform prepared.sound gated peripheral, ?_, fun hopen ↦ ?_⟩
  · have hgrown : (course.call op peripheral).history = course.history ++ [deed] := rfl
    rw [hready, prepared.equipped, hgrown, List.any_append, List.any_cons, List.any_nil,
      Bool.or_false]
  · rw [hready]
    rcases enabled_of_perform hopen with hbefore | ⟨rfl, hdone⟩
    · rw [prepared.opened hbefore, Bool.true_or]
    · rw [isInitialized_of_enable hdone, Bool.true_or]

/-- A course stays prepared by what leaves the gate and the base frequency alone and sets nothing
up. -/
theorem Prepared.of_kept {course after : Course (StepEngine κ) (EngineOp κ) κ}
    (prepared : Prepared course) (sound : after.device.timer.Sound)
    (deed : Deed (StepEngine κ) (EngineOp κ) κ) (history : after.history = course.history ++ [deed])
    (equips : deed.equips = false) (enabled : after.device.enabled = course.device.enabled)
    (frequency : after.device.timer.frequency = course.device.timer.frequency) :
    Prepared after := by
  have hready : after.device.timer.isInitialized = course.device.timer.isInitialized :=
    congrArg (· != 0) frequency
  refine ⟨sound, ?_, fun hopen ↦ hready.trans (prepared.opened (enabled ▸ hopen))⟩
  rw [hready, prepared.equipped, history]
  simp [equips]

theorem Prepared.interrupt {course : Course (StepEngine κ) (EngineOp κ) κ}
    (prepared : Prepared course) : Prepared course.interrupt := by
  unfold Course.interrupt
  split
  · exact prepared.of_kept prepared.sound .passed rfl rfl rfl rfl
  · exact prepared.of_kept prepared.sound (.entered _) rfl rfl rfl rfl

theorem Prepared.leave {course : Course (StepEngine κ) (EngineOp κ) κ} (prepared : Prepared course)
    (goOn : Bool) : Prepared (course.leave goOn) := by
  unfold Course.leave
  split
  · exact prepared
  · refine prepared.of_kept (prepared.sound.afterCallback goOn) (.left goOn _) rfl rfl rfl ?_
    exact (prepared.sound.afterCallback_attends goOn).frequency_eq

theorem prepared_along {moves : List (PulseMove (EngineOp κ))}
    (gated : ∀ move ∈ moves, move.Within EngineOp.Gated) :
    Prepared (Course.along ({} : StepEngine κ) moves) :=
  Course.run_induction (P := Prepared) ⟨.fresh, rfl, fun hopen ↦ absurd hopen Bool.false_ne_true⟩
    (fun _ _ peripheral hop h ↦ h.call hop peripheral) (fun _ h ↦ h.interrupt)
    (fun _ goOn h ↦ h.leave goOn) gated

/-- The refusals of an engine with a history. -/
structure Refusals (history : List (Deed (StepEngine κ) (EngineOp κ) κ)) (engine : StepEngine κ) :
    Prop where
  opened : engine.enabled = true → engine.timer.isInitialized = true
  start : engine.start.answer = .ok ()
  started : engine.enabled = true → engine.start.state.timer.running = true
  setTiming : ∀ ticks, Refuses (engine.setTiming ticks) (engine.enabled = true ∧ ticks = 0)
    .zeroTicks engine
  /-- Unless the history set it up, the engine cannot be opened. -/
  enable : Refuses engine.enable (∀ deed ∈ history, deed.equips = false) .notInitialized engine
  init : ∀ peripheral settings callback,
    Refuses (engine.init peripheral settings callback) (settings.timerFrequency = 0)
      .zeroFrequency { engine with enabled := false }

theorem Prepared.refusals {course : Course (StepEngine κ) (EngineOp κ) κ}
    (prepared : Prepared course) : Refusals course.history course.device where
  opened := prepared.opened
  start := by
    unfold start
    split_ifs with hopen
    · exact (prepared.sound.start_of_isInitialized (prepared.opened hopen)).1
    · rfl
  started hopen := by
    rw [start, if_pos hopen]
    exact (prepared.sound.start_of_isInitialized (prepared.opened hopen)).2
  setTiming ticks := by
    unfold setTiming
    refine .intro (fun h ↦ ?_) fun h ↦ ?_
    · rw [if_pos h.1, h.2]
      rfl
    · split_ifs with hopen
      · exact prepared.sound.setTicks_of_isInitialized (prepared.opened hopen) fun hzero ↦
          h ⟨hopen, hzero⟩
      · rfl
  enable := by
    have hnever : course.device.timer.isInitialized = false ↔
        ∀ deed ∈ course.history, deed.equips = false := by
      rw [prepared.equipped]
      simp
    rw [← hnever]
    exact enable_refuses course.device
  init := init_refuses course.device

/-- Along every course of an engine that was never set up, the gate is only open over a timer that
is set up, starting never fails and behind an open gate the timer runs afterwards. What else is
asked of the engine fails exactly as documented, and then changes nothing but that to set the engine
up closes the gate. -/
theorem refusals_along {moves : List (PulseMove (EngineOp κ))}
    (gated : ∀ move ∈ moves, move.Within EngineOp.Gated) :
    Refusals (Course.along ({} : StepEngine κ) moves).history
      (Course.along ({} : StepEngine κ) moves).device :=
  (prepared_along gated).refusals

/-- An engine that was refused at first runs, and is set up anew from its own callback, in vain. -/
def setUpInVain : List (PulseMove (EngineOp String)) :=
  [.call (.init { timerFrequency := 0 } "a") { tag := 1, hasCounter := true },
    .call .enable { tag := 2, hasCounter := true },
    .call (.init { timerFrequency := 1000 } "a") { tag := 2, hasCounter := true },
    .call .enable { tag := 3, hasCounter := true }, .call .start { tag := 3, hasCounter := true },
    .interrupt, .call (.init { timerFrequency := 0 } "b") { tag := 3, hasCounter := true },
    .call .enable { tag := 4, hasCounter := true }]

theorem refusals_along_setUpInVain :
    (∀ move ∈ setUpInVain, move.Within EngineOp.Gated) ∧
      (Course.along ({} : StepEngine String) setUpInVain).device.enabled = true ∧
      Refusals (Course.along ({} : StepEngine String) setUpInVain).history
        (Course.along ({} : StepEngine String) setUpInVain).device := by
  have gated : ∀ move ∈ setUpInVain, move.Within EngineOp.Gated := by
    simp [setUpInVain, PulseMove.Within, EngineOp.Gated]
  exact ⟨gated, rfl, refusals_along gated⟩

end StepEngine

end MotionControl
