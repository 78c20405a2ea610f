import MotionControl.Proofs.Pulse.TimerState

/-!
# The gate of a step engine

A step engine is at rest if its timer is stopped and the interrupt of its peripheral disabled. A
closed gate is meant to keep the engine at rest, because while the gate is closed neither a stop nor
another closing reaches the timer. One operation breaks this: setting the engine up with a base
frequency of zero closes the gate and then fails, and a timer that was running goes on running.

Nothing else does. Along every course, an engine with a closed gate is not at rest exactly when its
history holds such a failure at an open gate over a running timer and nothing since that settles it
(`StepEngine.Stranded`). The same condition decides whether closing the gate stops the timer, and
whether interrupts keep quiet until the gate is opened and the timer started again.
-/

set_option autoImplicit false
set_option relaxedAutoImplicit false

namespace MotionControl

open scoped List

variable {κ : Type}

/-- Whether an operation is one of the engine's own, as opposed to one of the timer behind it. -/
def EngineOp.Gated : EngineOp κ → Prop
  | timer _ => False
  | _ => True

/-- What a request that only an open gate lets through does to the timer. -/
def EngineOp.request? : EngineOp κ → Option (StepTimer κ → StepTimer κ)
  | setTiming ticks => some fun timer ↦ (timer.setTicks ticks).state
  | start => some fun timer ↦ timer.start.state
  | stop => some fun timer ↦ timer.stop.state
  | _ => none

namespace Deed

/-- The engine was set up with a base frequency of zero while its gate was open and its timer
running. -/
def strands : Deed (StepEngine κ) (EngineOp κ) κ → Bool
  | called (.init settings _) _ before _ =>
    settings.timerFrequency == 0 && before.enabled && before.timer.running
  | _ => false

/-- The gate was opened, the engine set up with a base frequency, or the timer stopped by its
callback. -/
def settles : Deed (StepEngine κ) (EngineOp κ) κ → Bool
  | called .enable _ _ outcome => outcome.answer == .done
  | called (.init settings _) _ _ _ => settings.timerFrequency != 0
  | left goOn _ => !goOn
  | _ => false

end Deed

namespace StepEngine

/-- Whether the timer is stopped and the interrupt of its peripheral disabled. -/
def AtRest (engine : StepEngine κ) : Prop :=
  engine.timer.running = false ∧
    ∀ peripheral, engine.timer.peripheral = some peripheral → peripheral.enabled = false

/-- Whether the engine was stranded and nothing has settled it since. -/
def Stranded (history : List (Deed (StepEngine κ) (EngineOp κ) κ)) : Prop :=
  ∃ deed ∈ since Deed.settles history, deed.strands = true

instance (history : List (Deed (StepEngine κ) (EngineOp κ) κ)) : Decidable (Stranded history) :=
  inferInstanceAs (Decidable (∃ deed ∈ since Deed.settles history, deed.strands = true))

theorem not_stranded_concat {history : List (Deed (StepEngine κ) (EngineOp κ) κ)}
    {deed : Deed (StepEngine κ) (EngineOp κ) κ} (settles : deed.settles = true) :
    ¬ Stranded (history ++ [deed]) := by
  simp [Stranded, since_concat_of_resets history settles]

theorem stranded_concat_iff {history : List (Deed (StepEngine κ) (EngineOp κ) κ)}
    {deed : Deed (StepEngine κ) (EngineOp κ) κ} (settles : deed.settles = false) :
    Stranded (history ++ [deed]) ↔ Stranded history ∨ deed.strands = true := by
  simp [Stranded, since_concat history settles, or_and_right, exists_or]

theorem stranded_concat_of_neutral {history : List (Deed (StepEngine κ) (EngineOp κ) κ)}
    {deed : Deed (StepEngine κ) (EngineOp κ) κ} (settles : deed.settles = false)
    (strands : deed.strands = false) : Stranded (history ++ [deed]) ↔ Stranded history := by
  rw [stranded_concat_iff settles, strands]
  simp

/-! ### What the operations come to -/

/-- A failure to set the engine up closes the gate and leaves the timer as it was. -/
theorem init_of_eq_zero (engine : StepEngine κ) (peripheral : Peripheral)
    {settings : SteppingSettings} (h : settings.timerFrequency = 0) (callback : κ) :
    (engine.init peripheral settings callback).state = { engine with enabled := false } := by
  simp only [init, onTimer, StepTimer.initFrom, h]
  rfl

/-- Setting the engine up closes the gate over a stopped timer. -/
theorem init_of_ne_zero (engine : StepEngine κ) (peripheral : Peripheral)
    {settings : SteppingSettings} (h : settings.timerFrequency ≠ 0) (callback : κ) :
    (engine.init peripheral settings callback).state.enabled = false ∧
      (engine.init peripheral settings callback).state.timer.running = false := by
  have hne : settings.timerFrequency.toNat ≠ 0 := fun hzero ↦ h (UInt32.toNat_inj.mp hzero)
  refine ⟨rfl, ?_⟩
  simp only [init, onTimer, StepTimer.initFrom,
    (StepTimer.init_of_ne_zero hne engine.timer peripheral callback).2]
  rfl

/-- A request works on the timer while the gate is open, and is dropped while it is closed. -/
theorem perform_request (engine : StepEngine κ) (peripheral : Peripheral) {op : EngineOp κ}
    {request : StepTimer κ → StepTimer κ} (h : op.request? = some request) :
    (op.perform peripheral engine).state =
      if engine.enabled then { engine with timer := request engine.timer } else engine := by
  cases op with
  | setTiming ticks =>
    cases h
    simp only [EngineOp.perform, setTiming]
    split <;> rfl
  | start =>
    cases h
    simp only [EngineOp.perform, start]
    split <;> rfl
  | stop =>
    cases h
    simp only [EngineOp.perform, stop]
    split <;> rfl
  | init | enable | disable | timer => cases h

theorem disable_running (engine : StepEngine κ) :
    engine.disable.state.enabled = false ∧
      (engine.disable.state.timer.running = true ↔
        engine.enabled = false ∧ engine.timer.running = true) := by
  unfold disable
  split_ifs with h
  · simp [onTimer, StepTimer.stop_running, h]
  · simp [Outcome.still, h]

/-- Every operation of the engine's own keeps the form of the timer's state. -/
theorem timer_sound_perform {engine : StepEngine κ} (sound : engine.timer.Sound) {op : EngineOp κ}
    (gated : op.Gated) (peripheral : Peripheral) :
    (op.perform peripheral engine).state.timer.Sound := by
  cases op with
  | init settings callback => exact sound.init peripheral _ callback
  | enable =>
    simp only [EngineOp.perform, enable]
    split_ifs
    all_goals exact sound
  | disable =>
    simp only [EngineOp.perform, disable]
    split_ifs
    · exact sound.stop
    · exact sound
  | setTiming ticks =>
    rw [perform_request engine peripheral rfl]
    split
    · exact sound.setTicks ticks
    · exact sound
  | start =>
    rw [perform_request engine peripheral rfl]
    split
    · exact sound.start
    · exact sound
  | stop =>
    rw [perform_request engine peripheral rfl]
    split
    · exact sound.stop
    · exact sound
  | timer op => exact gated.elim

/-! ### Running behind a closed gate -/

/-- Whether the timer runs although the gate is closed. -/
def Astray (engine : StepEngine κ) : Prop := engine.enabled = false ∧ engine.timer.running = true

/-- Behind a closed gate a sound engine is at rest unless its timer runs. -/
theorem atRest_iff {engine : StepEngine κ} (sound : engine.timer.Sound)
    (shut : engine.enabled = false) : engine.AtRest ↔ ¬ engine.Astray := by
  obtain ⟨timer, enabled⟩ := engine
  cases sound with
  | fresh => simp [AtRest, Astray]
  | fitted pos le =>
    change enabled = false at shut
    simp [AtRest, Astray, shut]

/-- A request that only an open gate lets through does not lead astray. -/
theorem astray_request_iff (engine : StepEngine κ) (peripheral : Peripheral) {op : EngineOp κ}
    {request : StepTimer κ → StepTimer κ} (h : op.request? = some request) :
    (op.perform peripheral engine).state.Astray ↔ engine.Astray := by
  rw [perform_request engine peripheral h]
  cases henabled : engine.enabled with
  | false => rfl
  | true => simp [Astray, henabled]

/-- An operation leaves the timer running behind a closed gate exactly if the engine was stranded by
it, or was astray already and is not settled by it. -/
theorem astray_perform_iff {engine : StepEngine κ} {op : EngineOp κ} (gated : op.Gated)
    (peripheral : Peripheral) :
    (op.perform peripheral engine).state.Astray ↔
      (Deed.called op peripheral engine (op.perform peripheral engine)).settles = false ∧
        (engine.Astray ∨
          (Deed.called op peripheral engine (op.perform peripheral engine)).strands = true) := by
  cases op with
  | init settings callback =>
    by_cases hzero : settings.timerFrequency = 0
    · have hstate := init_of_eq_zero engine peripheral hzero callback
      simp only [EngineOp.perform, hstate, Astray, Deed.settles, Deed.strands, hzero]
      cases engine.enabled <;> simp
    · have hstopped := (init_of_ne_zero engine peripheral hzero callback).2
      simp [EngineOp.perform, hstopped, Astray, Deed.settles, hzero]
  | enable =>
    by_cases hready : engine.timer.isInitialized = true
    · simp [EngineOp.perform, enable, hready, Astray, Deed.settles, PulseAnswer.ofResult]
    · simp [EngineOp.perform, enable, hready, Outcome.still, Deed.settles, Deed.strands,
        PulseAnswer.ofResult]
  | disable =>
    obtain ⟨hshut, hrunning⟩ := disable_running engine
    simp [EngineOp.perform, Astray, hshut, hrunning, Deed.settles, Deed.strands]
  | setTiming | start | stop =>
    refine (astray_request_iff engine peripheral rfl).trans ?_
    simp [Deed.settles, Deed.strands]
  | timer op => exact gated.elim

/-! ### Courses of an engine -/

/-- The state of the timer is of its form, and the timer runs behind a closed gate exactly if the
history left the engine stranded. -/
def InForm (course : Course (StepEngine κ) (EngineOp κ) κ) : Prop :=
  course.device.timer.Sound ∧ (course.device.Astray ↔ Stranded course.history)

theorem InForm.call {course : Course (StepEngine κ) (EngineOp κ) κ} (inForm : InForm course)
    {op : EngineOp κ} (gated : op.Gated) (peripheral : Peripheral) :
    InForm (course.call op peripheral) := by
  refine ⟨timer_sound_perform inForm.1 gated peripheral, ?_⟩
  refine (astray_perform_iff gated peripheral).trans ?_
  rw [inForm.2]
  cases hsettles : (Deed.called op peripheral course.device
      (op.perform peripheral course.device)).settles with
  | false =>
    rw [eq_self_iff_true, true_and]
    exact (stranded_concat_iff hsettles).symm
  | true => exact iff_of_false (by simp) (not_stranded_concat hsettles)

theorem InForm.interrupt {course : Course (StepEngine κ) (EngineOp κ) κ} (inForm : InForm course) :
    InForm course.interrupt := by
  unfold Course.interrupt
  split
  · exact ⟨inForm.1, inForm.2.trans (stranded_concat_of_neutral rfl rfl).symm⟩
  · exact ⟨inForm.1, inForm.2.trans (stranded_concat_of_neutral rfl rfl).symm⟩

theorem InForm.leave {course : Course (StepEngine κ) (EngineOp κ) κ} (inForm : InForm course)
    (goOn : Bool) : InForm (course.leave goOn) := by
  unfold Course.leave
  split
  · exact inForm
  · refine ⟨inForm.1.afterCallback goOn, ?_⟩
    cases goOn with
    | true => exact inForm.2.trans (stranded_concat_of_neutral rfl rfl).symm
    | false =>
      refine iff_of_false (fun h ↦ ?_) (not_stranded_concat rfl)
      exact Bool.false_ne_true ((StepTimer.stop_running course.device.timer).symm.trans h.2)

/-- Every course of an engine that was never set up keeps its form. -/
theorem inForm_along {moves : List (PulseMove (EngineOp κ))}
    (gated : ∀ move ∈ moves, move.Within EngineOp.Gated) :
    InForm (Course.along ({} : StepEngine κ) moves) :=
  Course.run_induction (P := InForm) ⟨.fresh, by simp [Astray, Stranded]⟩
    (fun _ _ peripheral hop h ↦ h.call hop peripheral) (fun _ h ↦ h.interrupt)
    (fun _ goOn h ↦ h.leave goOn) gated

/-! ### After the gate was closed -/

/-- The operations that were called and did not fail. -/
def grantedOps (history : List (Deed (StepEngine κ) (EngineOp κ) κ)) : List (EngineOp κ) :=
  history.filterMap fun deed ↦ if deed.granted then deed.op? else none

theorem grantedOps_concat (history : List (Deed (StepEngine κ) (EngineOp κ) κ))
    (deed : Deed (StepEngine κ) (EngineOp κ) κ) :
    grantedOps (history ++ [deed]) =
      grantedOps history ++ (if deed.granted then deed.op? else none).toList := by
  cases h : (if deed.granted then deed.op? else none) <;>
    simp [grantedOps, List.filterMap_append, h]

/-- The gate is only open if it was opened, and the timer only runs if it was started since. -/
structure Licensed (course : Course (StepEngine κ) (EngineOp κ) κ) : Prop where
  opened : course.device.enabled = true → [.enable] <+ grantedOps course.history
  started : course.device.timer.running = true → [.enable, .start] <+ grantedOps course.history

/-- An operation that leaves the gate open found it open or opened it. -/
theorem enabled_of_perform {engine : StepEngine κ} {op : EngineOp κ} {peripheral : Peripheral}
    (h : (op.perform peripheral engine).state.enabled = true) :
    engine.enabled = true ∨
      op = .enable ∧ (op.perform peripheral engine).answer = .done := by
  cases op with
  | init settings callback => cases h
  | enable =>
    by_cases hready : engine.timer.isInitialized = true
    · exact .inr ⟨rfl, by simp [EngineOp.perform, enable, hready, PulseAnswer.ofResult]⟩
    · exact .inl (by simpa [EngineOp.perform, enable, hready, Outcome.still] using h)
  | disable => exact absurd ((disable_running engine).1.symm.trans h) Bool.false_ne_true
  | setTiming | start | stop =>
    rw [perform_request engine peripheral rfl] at h
    split at h
    · exact .inl ‹_›
    · exact .inl h
  | timer op => exact .inl h

/-- An operation that leaves the timer running found it running or started it through an open
gate. -/
theorem running_of_perform {engine : StepEngine κ} {op : EngineOp κ} (gated : op.Gated)
    {peripheral : Peripheral} (h : (op.perform peripheral engine).state.timer.running = true) :
    engine.timer.running = true ∨
      op = .start ∧ engine.enabled = true ∧ (op.perform peripheral engine).answer = .done := by
  cases op with
  | init settings callback =>
    by_cases hzero : settings.timerFrequency = 0
    · refine .inl ?_
      rw [EngineOp.perform, init_of_eq_zero engine peripheral hzero callback] at h
      exact h
    · have hstopped := (init_of_ne_zero engine peripheral hzero callback).2
      exact absurd (hstopped.symm.trans h) Bool.false_ne_true
  | enable =>
    simp only [EngineOp.perform, enable] at h
    split_ifs at h
    all_goals exact .inl h
  | disable => exact .inl ((disable_running engine).2.mp h).2
  | setTiming ticks =>
    rw [perform_request engine peripheral rfl] at h
    split at h
    · exact .inl ((engine.timer.setTicks_running ticks).symm.trans h)
    · exact .inl h
  | start =>
    by_cases hopen : engine.enabled = true
    · have hpassed : engine.start = engine.onTimer StepTimer.start := if_pos hopen
      simp only [EngineOp.perform, hpassed, onTimer] at h ⊢
      refine (StepTimer.start_answer h).imp id fun hdone ↦ ⟨trivial, hopen, ?_⟩
      rw [hdone]
      rfl
    · have hdropped : engine.start = .still (.ok ()) engine := if_neg hopen
      rw [EngineOp.perform, hdropped] at h
      exact .inl h
  | stop =>
    rw [perform_request engine peripheral rfl] at h
    split at h
    · exact absurd ((StepTimer.stop_running engine.timer).symm.trans h) Bool.false_ne_true
    · exact .inl h
  | timer op => exact gated.elim

theorem Licensed.call {course : Course (StepEngine κ) (EngineOp κ) κ} (licensed : Licensed course)
    {op : EngineOp κ} (gated : op.Gated) (peripheral : Peripheral) :
    Licensed (course.call op peripheral) := by
  let deed := Deed.called op peripheral course.device (op.perform peripheral course.device)
  have hgrown : grantedOps (course.history ++ [deed]) =
      grantedOps course.history ++ (if deed.granted then some op else none).toList :=
    grantedOps_concat _ _
  have hkept {ops : List (EngineOp κ)} (h : ops <+ grantedOps course.history) :
      ops <+ grantedOps (course.history ++ [deed]) := by
    rw [hgrown]
    exact h.trans (List.sublist_append_left _ _)
  have hadded {ops : List (EngineOp κ)} (h : ops <+ grantedOps course.history)
      (hdone : (op.perform peripheral course.device).answer = .done) :
      ops ++ [op] <+ grantedOps (course.history ++ [deed]) := by
    have hgranted : deed.granted = true := by simp [deed, Deed.granted, hdone]
    rw [hgrown, if_pos hgranted]
    exact h.append_right [op]
  refine ⟨fun h ↦ ?_, fun h ↦ ?_⟩
  · rcases enabled_of_perform h with hopen | ⟨rfl, hdone⟩
    · exact hkept (licensed.opened hopen)
    · exact hadded (List.nil_sublist _) hdone
  · rcases running_of_perform gated h with hrunning | ⟨rfl, hopen, hdone⟩
    · exact hkept (licensed.started hrunning)
    · exact hadded (licensed.opened hopen) hdone

/-- What is no operation keeps to the licence unless it starts the timer. -/
theorem Licensed.of_op?_eq_none {course after : Course (StepEngine κ) (EngineOp κ) κ}
    (licensed : Licensed course) (deed : Deed (StepEngine κ) (EngineOp κ) κ)
    (silent : deed.op? = none) (history : after.history = course.history ++ [deed])
    (enabled : after.device.enabled = course.device.enabled)
    (running : after.device.timer.running = true → course.device.timer.running = true) :
    Licensed after := by
  have hsame : grantedOps after.history = grantedOps course.history := by
    rw [history, grantedOps_concat, silent, ite_self]
    exact List.append_nil _
  refine ⟨fun h ↦ ?_, fun h ↦ ?_⟩
  · rw [hsame]
    exact licensed.opened (enabled ▸ h)
  · rw [hsame]
    exact licensed.started (running h)

theorem Licensed.interrupt {course : Course (StepEngine κ) (EngineOp κ) κ}
    (licensed : Licensed course) : Licensed course.interrupt := by
  unfold Course.interrupt
  split
  · exact licensed.of_op?_eq_none .passed rfl rfl rfl id
  · exact licensed.of_op?_eq_none (.entered _) rfl rfl rfl id

theorem Licensed.leave {course : Course (StepEngine κ) (EngineOp κ) κ} (licensed : Licensed course)
    (goOn : Bool) : Licensed (course.leave goOn) := by
  unfold Course.leave
  split
  · exact licensed
  · refine licensed.of_op?_eq_none (.left goOn _) rfl rfl rfl fun h ↦ ?_
    cases goOn with
    | true => exact h
    | false =>
      exact absurd ((StepTimer.stop_running course.device.timer).symm.trans h) Bool.false_ne_true

/-- The course that goes on from the closing of the gate. -/
def afterDisable (course : Course (StepEngine κ) (EngineOp κ) κ) :
    Course (StepEngine κ) (EngineOp κ) κ :=
  { course with device := course.device.disable.state, history := [] }

/-- If closing the gate stopped the timer, interrupts call nothing until the gate is opened and the
timer started. -/
theorem licensed_afterDisable {course : Course (StepEngine κ) (EngineOp κ) κ}
    (stopped : course.device.disable.state.timer.running = false)
    {later : List (PulseMove (EngineOp κ))} (gated : ∀ move ∈ later, move.Within EngineOp.Gated) :
    Licensed ((afterDisable course).run later) := by
  refine Course.run_induction (P := Licensed) ⟨fun h ↦ ?_, fun h ↦ ?_⟩
    (fun _ _ peripheral hop h ↦ h.call hop peripheral) (fun _ h ↦ h.interrupt)
    (fun _ goOn h ↦ h.leave goOn) gated
  · exact absurd ((disable_running course.device).1.symm.trans h) Bool.false_ne_true
  · exact absurd (stopped.symm.trans h) Bool.false_ne_true

/-- Along every course of an engine that was never set up, the engine is at rest behind a closed
gate, closing the gate stops the timer, and interrupts then call nothing until the gate is opened
and the timer started, each exactly if the history did not leave the engine stranded. -/
theorem restsWhileShut_iff {moves : List (PulseMove (EngineOp κ))}
    (gated : ∀ move ∈ moves, move.Within EngineOp.Gated)
    {course : Course (StepEngine κ) (EngineOp κ) κ}
    (along : course = Course.along ({} : StepEngine κ) moves) :
    ((course.device.enabled = false → course.device.AtRest) ↔ ¬ Stranded course.history) ∧
    (course.device.disable.state.timer.running = false ↔ ¬ Stranded course.history) ∧
    ((∀ later : List (PulseMove (EngineOp κ)), (∀ move ∈ later, move.Within EngineOp.Gated) →
        ∀ callback, PulseDevice.dispatch? ((afterDisable course).run later).device = some callback →
          [.enable, .start] <+ grantedOps ((afterDisable course).run later).history) ↔
      ¬ Stranded course.history) := by
  obtain ⟨hsound, hastray⟩ : InForm course := along ▸ inForm_along gated
  have hstopped : course.device.disable.state.timer.running = false ↔
      ¬ Stranded course.history := by
    rw [← hastray, ← Bool.not_eq_true, (disable_running course.device).2]
    rfl
  refine ⟨?_, hstopped, fun hquiet ↦ ?_, fun hsettled later hlater callback hcall ↦ ?_⟩
  · rw [← hastray]
    refine ⟨fun hrest h ↦ (atRest_iff hsound h.1).mp (hrest h.1) h, fun h hshut ↦ ?_⟩
    exact (atRest_iff hsound hshut).mpr h
  · -- Without any later move, a timer that still runs would call its callback.
    refine hstopped.mp (Bool.not_eq_true _ ▸ fun hrunning ↦ ?_)
    have hdisabled : course.device.disable.state.timer.Sound :=
      timer_sound_perform hsound (show EngineOp.disable.Gated from trivial) ⟨0, false, 0, false, 0⟩
    obtain ⟨callback, hcall⟩ := hdisabled.exists_dispatch? hrunning
    have hnone := hquiet [] (by simp) callback hcall
    cases hnone
  · have hlicensed := licensed_afterDisable (hstopped.mpr hsettled) hlater
    exact hlicensed.started (StepTimer.running_of_dispatch? hcall).1

/-- A running engine is set up with a base frequency of zero. -/
def setUpWithZero : List (PulseMove (EngineOp String)) :=
  [.call (.init { timerFrequency := 1000 } "a") { tag := 1, hasCounter := false },
    .call .enable { tag := 2, hasCounter := false }, .call .start { tag := 2, hasCounter := false },
    .call (.init { timerFrequency := 0 } "a") { tag := 2, hasCounter := false }]

/-- Behind its closed gate such an engine runs, and closing the gate again does not stop it. -/
theorem not_atRest_setUpWithZero :
    (∀ move ∈ setUpWithZero, move.Within EngineOp.Gated) ∧
      (Course.along ({} : StepEngine String) setUpWithZero).device.enabled = false ∧
      ¬ (Course.along ({} : StepEngine String) setUpWithZero).device.AtRest ∧
      (Course.along ({} : StepEngine String) setUpWithZero).device.disable.state.timer.running =
        true ∧
      PulseDevice.dispatch?
        (Course.along ({} : StepEngine String) setUpWithZero).device.disable.state = some "a" := by
  refine ⟨?_, rfl, fun hrest ↦ Bool.false_ne_true (hrest.1.symm.trans rfl), rfl, rfl⟩
  simp [setUpWithZero, PulseMove.Within, EngineOp.Gated]

/-- Once its callback has returned false, the engine is at rest and stays so. -/
theorem restsWhileShut_setUpWithZero :
    (∀ move ∈ setUpWithZero ++ [.interrupt, .leave false], move.Within EngineOp.Gated) ∧
      (Course.along ({} : StepEngine String)
        (setUpWithZero ++ [.interrupt, .leave false])).device.AtRest := by
  have gated : ∀ move ∈ setUpWithZero ++ [.interrupt, .leave false],
      move.Within EngineOp.Gated := by
    simp [setUpWithZero, PulseMove.Within, EngineOp.Gated]
  exact ⟨gated, (restsWhileShut_iff gated rfl).1.mpr (by decide) rfl⟩

end StepEngine

end MotionControl
