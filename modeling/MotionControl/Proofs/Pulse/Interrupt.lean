import MotionControl.Proofs.Pulse.Commands

/-!
# Interrupts of a step timer

An interrupt of a running timer calls one callback, the one with which the timer was last set up.
The callback may operate the timer before it returns, so an interrupt is a stretch of a course from
the arrival of the interrupt to the return of the callback (`Course.onInterrupt`).

A stop from inside the callback is effective because a timer that runs after an operation was
started by it, or ran before and was neither stopped nor set up by it
(`StepTimer.running_of_perform`). So a timer whose callback returned false, or whose last word on
the matter was not a start, is stopped and stays so until it is started (`StepTimer.Halted`),
whatever interrupts arrive in the meantime.
-/

set_option autoImplicit false
set_option relaxedAutoImplicit false

namespace MotionControl

variable {κ : Type}

/-- The callback that was called. -/
def PulseEvent.callback? : PulseEvent κ → Option κ
  | .callback called => some called
  | _ => none

namespace Deed

/-- The callback with which the timer was set up. -/
def installed? (deed : Deed (StepTimer κ) (TimerOp κ) κ) : Option κ :=
  if deed.granted then deed.op?.bind fun op ↦ op.setUp?.map Prod.snd else none

/-- Whether the timer was started. -/
def starts : Deed (StepTimer κ) (TimerOp κ) κ → Bool
  | called .start _ _ outcome => outcome.answer == .done
  | _ => false

/-- Whether the timer is to run after an operation that has a say in it: a start, granted or not, a
stop, and setting the timer up, unless that fails. -/
def wantsRunning? (deed : Deed (StepTimer κ) (TimerOp κ) κ) : Option Bool :=
  match deed.op? with
  | some .start => some true
  | some .stop => some false
  | _ => if deed.setsUp then some false else none

/-- A start, granted or not, wants the timer to run. -/
theorem wantsRunning?_of_starts {deed : Deed (StepTimer κ) (TimerOp κ) κ}
    (h : deed.starts = true) : deed.wantsRunning? = some true := by
  unfold starts at h
  split at h
  · rfl
  · cases h

end Deed

/-! ### Stretches of a course -/

namespace Course

variable {σ Op : Type}

/-- The callbacks that were called. -/
def callbacks (course : Course σ Op κ) : List κ :=
  (course.history.flatMap Deed.events).filterMap PulseEvent.callback?

theorem callbacks_of_history (course : Course σ Op κ) {after : Course σ Op κ} {deed : Deed σ Op κ}
    (history : after.history = course.history ++ [deed]) :
    after.callbacks = course.callbacks ++ deed.events.filterMap PulseEvent.callback? := by
  rw [callbacks, history]
  simp [callbacks]

variable [PulseDevice σ Op κ]

/-- The course after an interrupt whose callback, if it calls one, performs operations and
returns. -/
def onInterrupt (course : Course σ Op κ) (calls : List (Op × Peripheral)) (goOn : Bool) :
    Course σ Op κ :=
  match PulseDevice.dispatch? course.device with
  | none => course.interrupt
  | some _ => (course.interrupt.run (calls.map fun call ↦ .call call.1 call.2)).leave goOn

theorem onInterrupt_of_dispatch? {course : Course σ Op κ} {callback : κ}
    (h : PulseDevice.dispatch? course.device = some callback) (calls : List (Op × Peripheral))
    (goOn : Bool) :
    course.onInterrupt calls goOn =
      (course.interrupt.run (calls.map fun call ↦ .call call.1 call.2)).leave goOn := by
  rw [onInterrupt, h]

theorem onInterrupt_of_dispatch?_eq_none {course : Course σ Op κ}
    (h : PulseDevice.dispatch? course.device = none) (calls : List (Op × Peripheral))
    (goOn : Bool) :
    course.onInterrupt calls goOn = { course with history := course.history ++ [.passed] } := by
  rw [onInterrupt, h]
  simp only [interrupt, h]

/-- An interrupt is a stretch of moves, the same whatever the history. -/
theorem exists_onInterrupt_eq_run {kind : Op → Prop} (course : Course σ Op κ)
    {calls : List (Op × Peripheral)} (within : ∀ call ∈ calls, kind call.1) (goOn : Bool) :
    ∃ moves : List (PulseMove Op), (∀ move ∈ moves, move.Within kind) ∧
      course.onInterrupt calls goOn = course.run moves ∧
      course.afresh.onInterrupt calls goOn = course.afresh.run moves := by
  cases hcall : PulseDevice.dispatch? course.device with
  | none =>
    have hinterrupt (other : Course σ Op κ) (h : other.device = course.device) :
        other.onInterrupt calls goOn = other.run [.interrupt] := by
      rw [onInterrupt, h, hcall]
      rfl
    exact ⟨[.interrupt], List.forall_mem_singleton.mpr trivial, hinterrupt course rfl,
      hinterrupt course.afresh rfl⟩
  | some callback =>
    let moves : List (PulseMove Op) :=
      .interrupt :: (calls.map fun call ↦ .call call.1 call.2) ++ [.leave goOn]
    have hinterrupt (other : Course σ Op κ) (h : other.device = course.device) :
        other.onInterrupt calls goOn = other.run moves := by
      rw [onInterrupt_of_dispatch? (h ▸ hcall)]
      simp only [moves, run, List.foldl_append, List.foldl_cons, List.foldl_nil]
      rfl
    refine ⟨moves, ?_, hinterrupt course rfl, hinterrupt course.afresh rfl⟩
    refine List.forall_mem_append.mpr ⟨List.forall_mem_cons.mpr ⟨trivial, ?_⟩, ?_⟩
    · exact List.forall_mem_map.mpr within
    · exact List.forall_mem_singleton.mpr trivial

end Course

namespace StepTimer

/-! ### What the operations do to the callback -/

theorem Attends.callbacks_eq_nil {timer after : StepTimer κ} {events : List (PulseEvent κ)}
    (attends : timer.Attends after events) : events.filterMap PulseEvent.callback? = [] := by
  cases attends with
  | silent => rfl
  | told => rfl

/-- An operation calls no callback, and installs one only if it sets the timer up. -/
theorem Sound.perform_callback {timer : StepTimer κ} (sound : timer.Sound) {op : TimerOp κ}
    (orderly : op.Orderly) (peripheral : Peripheral) :
    (op.perform peripheral timer).state.callback =
        (Deed.called op peripheral timer (op.perform peripheral timer)).installed?.or
          timer.callback ∧
      (op.perform peripheral timer).events.filterMap PulseEvent.callback? = [] := by
  rcases sound.perform_cases orderly peripheral with
    ⟨hunset, hattends⟩ | ⟨hertz, callback, hne, hop⟩
  · have hnone : (Deed.called op peripheral timer
        (op.perform peripheral timer)).installed? = none := by
      simpa [Deed.installed?, Deed.granted, Deed.op?] using hunset
    rw [hnone]
    exact ⟨hattends.callback_eq, hattends.callbacks_eq_nil⟩
  · obtain ⟨hanswer, hstate⟩ := setUp_granted timer peripheral hop hne
    have hinstalled : (Deed.called op peripheral timer
        (op.perform peripheral timer)).installed? = some callback := by
      simp [Deed.installed?, Deed.granted, Deed.op?, hanswer, hop]
    rw [hinstalled, hstate, setUp_events timer peripheral hop hne, List.filterMap_append,
      sound.stop_attends.callbacks_eq_nil]
    exact ⟨rfl, rfl⟩

/-! ### When the timer runs -/

theorem reset_running (timer : StepTimer κ) : timer.reset.state.running = timer.running := by
  unfold reset send
  split_ifs
  · split <;> rfl
  · rfl

/-- A timer that runs after an operation was started by it, or ran before and was not told to halt
by it. -/
theorem running_of_perform {timer : StepTimer κ} {op : TimerOp κ} {peripheral : Peripheral}
    (h : (op.perform peripheral timer).state.running = true) :
    (Deed.called op peripheral timer (op.perform peripheral timer)).starts = true ∨
      timer.running = true ∧
        (Deed.called op peripheral timer (op.perform peripheral timer)).wantsRunning? ≠
          some false := by
  have hsetUp {hertz : Nat} {callback : κ} (setUp : op.setUp? = some (hertz, callback)) :
      timer.running = true ∧
        (Deed.called op peripheral timer (op.perform peripheral timer)).setsUp = false := by
    by_cases hzero : hertz = 0
    · subst hzero
      obtain ⟨hanswer, hstate, -⟩ := setUp_refused timer peripheral setUp
      refine ⟨hstate ▸ h, ?_⟩
      simp [Deed.setsUp, Deed.granted, hanswer]
    · have hstate := (setUp_granted timer peripheral setUp hzero).2
      rw [hstate] at h
      cases h
  have hsilent (notInstalling : op.installs = false) :
      (Deed.called op peripheral timer (op.perform peripheral timer)).setsUp = false := by
    simp [Deed.setsUp, Deed.op?, notInstalling]
  cases op with
  | init | initFrom =>
    obtain ⟨hrunning, hnot⟩ := hsetUp rfl
    refine .inr ⟨hrunning, ?_⟩
    simp [Deed.wantsRunning?, Deed.op?, hnot]
  | start =>
    rcases start_answer h with hrunning | hgranted
    · exact .inr ⟨hrunning, by simp [Deed.wantsRunning?, Deed.op?]⟩
    · refine .inl ?_
      simp [Deed.starts, TimerOp.perform, hgranted, PulseAnswer.ofResult]
  | stop => exact absurd ((stop_running timer).symm.trans h) Bool.false_ne_true
  | setTicks ticks =>
    refine .inr ⟨(timer.setTicks_running ticks).symm.trans h, ?_⟩
    simp [Deed.wantsRunning?, Deed.op?, hsilent rfl]
  | reset =>
    refine .inr ⟨timer.reset_running.symm.trans h, ?_⟩
    simp [Deed.wantsRunning?, Deed.op?, hsilent rfl]
  | poke hertz =>
    obtain ⟨installed, _⟩ := timer
    refine .inr ⟨?_, by simp [Deed.wantsRunning?, Deed.op?, hsilent rfl]⟩
    cases installed <;> exact h

/-- A callback that returns does not start the timer, and stops it if it returns false. -/
theorem running_of_afterCallback {timer : StepTimer κ} {goOn : Bool}
    (h : (timer.afterCallback goOn).state.running = true) :
    timer.running = true ∧ goOn = true := by
  cases goOn with
  | true => exact ⟨h, rfl⟩
  | false => exact absurd ((stop_running timer).symm.trans h) Bool.false_ne_true

/-! ### Courses of a timer -/

variable {course : Course (StepTimer κ) (TimerOp κ) κ}

/-- The timer has the callback with which it was last set up. -/
theorem callback_along {moves : List (PulseMove (TimerOp κ))}
    (orderly : ∀ move ∈ moves, move.Within TimerOp.Orderly) :
    (Course.along ({} : StepTimer κ) moves).device.Sound ∧
      (Course.along ({} : StepTimer κ) moves).device.callback =
        latest? Deed.installed? (Course.along ({} : StepTimer κ) moves).history := by
  refine Sound.run_induction
    (P := fun course ↦ course.device.callback = latest? Deed.installed? course.history)
    ⟨{}, 0, []⟩ .fresh rfl ?_ ?_ ?_ ?_ orderly
  · intro course op peripheral hsound hop hcourse
    have hcall := (hsound.perform_callback hop peripheral).1
    rw [hcourse] at hcall
    exact hcall.trans (latest?_concat ..).symm
  · intro course _ hcourse
    rw [latest?_concat]
    exact hcourse
  · intro course callback _ hcourse
    rw [latest?_concat]
    exact hcourse
  · intro course underway goOn hsound hcourse
    rw [latest?_concat]
    exact (hsound.afterCallback_attends goOn).callback_eq.trans hcourse

/-- After operations of which the last that had a say wants the timer to halt, it is stopped. -/
theorem Sound.stopped_of_wantsRunning? (sound : course.device.Sound)
    {moves : List (PulseMove (TimerOp κ))} (orderly : ∀ move ∈ moves, move.Within TimerOp.Orderly)
    (halts : latest? Deed.wantsRunning? (course.afresh.run moves).history = some false) :
    (course.afresh.run moves).device.running = false := by
  refine (Sound.run_induction
    (P := fun course ↦
      latest? Deed.wantsRunning? course.history = some false → course.device.running = false)
    course.afresh sound nofun ?_ ?_ ?_ ?_ orderly).2 halts
  · intro course op peripheral _ _ hcourse h
    let deed := Deed.called op peripheral course.device (op.perform peripheral course.device)
    have hlast : (deed.wantsRunning?).or (latest? Deed.wantsRunning? course.history) =
        some false := (latest?_concat ..).symm.trans h
    refine Bool.eq_false_iff.mpr fun hrunning ↦ ?_
    -- A start would be the last word, and nothing else makes a stopped timer run.
    rcases running_of_perform hrunning with hstarts | ⟨hbefore, hwants⟩
    · rw [show deed.wantsRunning? = some true from Deed.wantsRunning?_of_starts hstarts] at hlast
      cases hlast
    · rcases Option.or_eq_some_iff.mp hlast with hsome | ⟨-, hsome⟩
      · exact hwants hsome
      · exact Bool.false_ne_true ((hcourse hsome).symm.trans hbefore)
  · intro course _ hcourse h
    rw [latest?_concat] at h
    exact hcourse h
  · intro course callback _ hcourse h
    rw [latest?_concat] at h
    exact hcourse h
  · intro course underway goOn _ hcourse h
    rw [latest?_concat] at h
    refine Bool.eq_false_iff.mpr fun hrunning ↦ ?_
    exact Bool.false_ne_true ((hcourse h).symm.trans (running_of_afterCallback hrunning).1)

/-- A stopped timer calls nothing until it is started. -/
theorem Sound.callbacks_of_stopped (sound : course.device.Sound)
    (stopped : course.device.running = false) {later : List (PulseMove (TimerOp κ))}
    (orderly : ∀ move ∈ later, move.Within TimerOp.Orderly)
    (unstarted : ∀ deed ∈ (course.afresh.run later).history, deed.starts = false) :
    (course.afresh.run later).callbacks = [] := by
  refine ((Sound.run_induction
    (P := fun course ↦ (∀ deed ∈ course.history, deed.starts = false) →
      course.device.running = false ∧ course.callbacks = [])
    course.afresh sound (fun _ ↦ ⟨stopped, rfl⟩) ?_ ?_ ?_ ?_ orderly).2 unstarted).2
  · intro course op peripheral hsound hop hcourse h
    obtain ⟨hbefore, hdeed⟩ := List.forall_mem_append.mp h
    obtain ⟨hrunning, hcallbacks⟩ := hcourse hbefore
    constructor
    · refine Bool.eq_false_iff.mpr fun hafter ↦ ?_
      rcases running_of_perform hafter with hstarts | ⟨hran, -⟩
      · exact Bool.false_ne_true ((hdeed _ (List.mem_singleton_self _)).symm.trans hstarts)
      · exact Bool.false_ne_true (hrunning.symm.trans hran)
    · rw [Course.callbacks_of_history course rfl, hcallbacks]
      exact (hsound.perform_callback hop peripheral).2
  · intro course _ hcourse h
    obtain ⟨hrunning, hcallbacks⟩ := hcourse (List.forall_mem_append.mp h).1
    refine ⟨hrunning, ?_⟩
    rw [Course.callbacks_of_history course rfl, hcallbacks]
    rfl
  · intro course callback hcall hcourse h
    obtain ⟨hrunning, -⟩ := hcourse (List.forall_mem_append.mp h).1
    exact absurd (hrunning.symm.trans (running_of_dispatch? hcall).1) Bool.false_ne_true
  · intro course underway goOn hsound hcourse h
    obtain ⟨hrunning, hcallbacks⟩ := hcourse (List.forall_mem_append.mp h).1
    constructor
    · refine Bool.eq_false_iff.mpr fun hafter ↦ ?_
      exact Bool.false_ne_true (hrunning.symm.trans (running_of_afterCallback hafter).1)
    · rw [Course.callbacks_of_history course rfl, hcallbacks]
      exact (hsound.afterCallback_attends goOn).callbacks_eq_nil

/-! ### One interrupt -/

/-- The operations of a callback leave the timer sound, call no callback, and leave as many
callbacks under way. -/
theorem Sound.run_calls (sound : course.device.Sound) {calls : List (TimerOp κ × Peripheral)}
    (within : ∀ call ∈ calls, call.1.Orderly) :
    let after := course.run (calls.map fun call ↦ .call call.1 call.2)
    after.device.Sound ∧ after.callbacks = course.callbacks ∧ after.underway = course.underway := by
  induction calls generalizing course with
  | nil => exact ⟨sound, rfl, rfl⟩
  | cons call calls ih =>
    obtain ⟨hop, hcalls⟩ := List.forall_mem_cons.mp within
    have hcall : (course.call call.1 call.2).callbacks = course.callbacks := by
      rw [Course.callbacks_of_history course rfl]
      refine (congrArg _ (sound.perform_callback hop call.2).2).trans (List.append_nil _)
    have hafter : (course.call call.1 call.2).device.Sound := sound.perform hop call.2
    obtain ⟨hsound, hcallbacks, hunderway⟩ := ih hafter hcalls
    exact ⟨hsound, hcallbacks.trans hcall, hunderway⟩

/-- An interrupt of a running timer calls the callback in place, once, and is over when it returns;
if the callback returns false, it leaves the timer stopped. -/
theorem Sound.onInterrupt_of_dispatch? (sound : course.device.Sound) {callback : κ}
    (h : course.device.dispatch? = some callback) {calls : List (TimerOp κ × Peripheral)}
    (within : ∀ call ∈ calls, call.1.Orderly) (goOn : Bool) :
    (course.onInterrupt calls goOn).callbacks = course.callbacks ++ [callback] ∧
      (course.onInterrupt calls goOn).underway = course.underway ∧
      (goOn = false → (course.onInterrupt calls goOn).device.running = false) := by
  have hcall : PulseDevice.dispatch? course.device = some callback := h
  have hentered : course.interrupt =
      { course with
        underway := course.underway + 1
        history := course.history ++ [.entered callback] } := by
    unfold Course.interrupt
    rw [hcall]
  have hinside : course.interrupt.device.Sound := hentered ▸ sound
  obtain ⟨hsound, hcallbacks, hunderway⟩ := hinside.run_calls within
  rw [Course.onInterrupt_of_dispatch? hcall]
  generalize course.interrupt.run (calls.map fun call ↦ .call call.1 call.2) = performed
    at hsound hcallbacks hunderway
  rw [hentered] at hcallbacks hunderway
  have hleave : performed.leave goOn =
      { device := (performed.device.afterCallback goOn).state
        underway := course.underway
        history := performed.history ++ [.left goOn (performed.device.afterCallback goOn)] } := by
    unfold Course.leave
    rw [hunderway]
    rfl
  rw [hleave]
  refine ⟨?_, rfl, ?_⟩
  · rw [Course.callbacks_of_history performed rfl, hcallbacks,
      Course.callbacks_of_history course rfl]
    refine (congrArg _ (hsound.afterCallback_attends goOn).callbacks_eq_nil).trans ?_
    exact List.append_nil _
  · rintro rfl
    exact stop_running performed.device

/-- Whether the timer is stopped with the interrupt of its peripheral paused, and whatever happens
next, interrupts call nothing until it is started. -/
structure Halted (course : Course (StepTimer κ) (TimerOp κ) κ) : Prop where
  stopped : course.device.running = false
  paused : ∀ peripheral, course.device.peripheral = some peripheral → peripheral.enabled = false
  silent : ∀ later : List (PulseMove (TimerOp κ)),
    (∀ move ∈ later, move.Within TimerOp.Orderly) →
    (∀ deed ∈ (course.afresh.run later).history, deed.starts = false) →
      (course.afresh.run later).callbacks = []

theorem Sound.halted (sound : course.device.Sound) (stopped : course.device.running = false) :
    Halted course where
  stopped := stopped
  paused peripheral hperipheral := by
    rcases course with ⟨timer, underway, history⟩
    change timer.Sound at sound
    cases sound with
    | fresh => cases hperipheral
    | fitted pos le =>
      cases hperipheral
      exact stopped
  silent _ := sound.callbacks_of_stopped stopped

/-- What an interrupt comes to whose callback, if it calls one, performs operations and returns. -/
structure Handled (course : Course (StepTimer κ) (TimerOp κ) κ)
    (calls : List (TimerOp κ × Peripheral)) (goOn : Bool) : Prop where
  /-- The interrupt of a stopped timer calls nothing and changes nothing. -/
  idle : course.device.running = false →
    course.onInterrupt calls goOn = { course with history := course.history ++ [.passed] }
  /-- The interrupt of a running timer calls the callback with which it was last set up, once. -/
  called : course.device.running = true →
    ∃ callback, latest? Deed.installed? course.history = some callback ∧
      (course.onInterrupt calls goOn).callbacks = course.callbacks ++ [callback]
  /-- If the callback returns false, or the last of its operations that have a say wants the timer
  to halt, the timer halts. -/
  halted : goOn = false ∨ latest? Deed.wantsRunning?
      (course.afresh.onInterrupt calls goOn).history = some false →
    Halted (course.onInterrupt calls goOn)

/-- Every interrupt is handled so, along every course of a timer that was never set up. -/
theorem onInterrupt_handled {moves : List (PulseMove (TimerOp κ))}
    (orderly : ∀ move ∈ moves, move.Within TimerOp.Orderly)
    {calls : List (TimerOp κ × Peripheral)} (within : ∀ call ∈ calls, call.1.Orderly)
    (goOn : Bool) : Handled (Course.along ({} : StepTimer κ) moves) calls goOn := by
  obtain ⟨hsound, hcallback⟩ := callback_along orderly
  generalize Course.along ({} : StepTimer κ) moves = course at hcallback hsound
  have hidle (stopped : course.device.running = false) :
      course.onInterrupt calls goOn = { course with history := course.history ++ [.passed] } := by
    refine Course.onInterrupt_of_dispatch?_eq_none ?_ calls goOn
    change (if course.device.running then course.device.callback else none) = none
    rw [stopped]
    rfl
  refine ⟨hidle, fun hrunning ↦ ?_, fun hhalts ↦ ?_⟩
  · obtain ⟨callback, hcall⟩ := hsound.exists_dispatch? hrunning
    refine ⟨callback, ?_, (hsound.onInterrupt_of_dispatch? hcall within goOn).1⟩
    exact hcallback.symm.trans (running_of_dispatch? hcall).2
  · obtain ⟨moves, hmoves, heq, hafresh⟩ := course.exists_onInterrupt_eq_run within goOn
    have hafter : (course.onInterrupt calls goOn).device.Sound := by
      rw [heq]
      exact hsound.run hmoves
    refine hafter.halted ?_
    rcases hhalts with rfl | hwants
    · cases hrunning : course.device.running with
      | false =>
        rw [hidle hrunning]
        exact hrunning
      | true =>
        obtain ⟨callback, hcall⟩ := hsound.exists_dispatch? hrunning
        exact (hsound.onInterrupt_of_dispatch? hcall within false).2.2 rfl
    · rw [hafresh] at hwants
      rw [heq, course.run_afresh]
      exact hsound.stopped_of_wantsRunning? hmoves hwants

/-- A timer is set up and started. -/
def runningTimer : List (PulseMove (TimerOp String)) :=
  [.call (.init 1000 "first") ⟨1, true, 0, true, 0⟩, .call .start ⟨2, true, 0, false, 0⟩]

/-- What the callback does: it stops and restarts the timer, sets it up with a second callback, and
then fails to set it up with a third. -/
def settingUpAnew : List (TimerOp String × Peripheral) :=
  [(.stop, ⟨2, true, 0, false, 0⟩), (.start, ⟨2, true, 0, false, 0⟩),
    (.init 500 "second", ⟨2, true, 0, true, 0⟩), (.init 0 "third", ⟨3, true, 0, false, 0⟩),
    (.setTicks 5, ⟨4, true, 0, false, 0⟩)]

/-- The first callback was called, once, and although it returned true the timer halts, over its new
peripheral and with the second callback in place. -/
theorem onInterrupt_handled_settingUpAnew :
    (∀ move ∈ runningTimer, move.Within TimerOp.Orderly) ∧
      (∀ call ∈ settingUpAnew, call.1.Orderly) ∧
      Handled (Course.along ({} : StepTimer String) runningTimer) settingUpAnew true ∧
      Halted ((Course.along ({} : StepTimer String) runningTimer).onInterrupt settingUpAnew true) ∧
      ((Course.along ({} : StepTimer String) runningTimer).onInterrupt settingUpAnew
        true).callbacks = ["first"] ∧
      ((Course.along ({} : StepTimer String) runningTimer).onInterrupt settingUpAnew true).device =
        fitted ⟨2, true, 100, false, 0⟩ "second" 500 5 := by
  have orderly : ∀ move ∈ runningTimer, move.Within TimerOp.Orderly := by
    simp [runningTimer, PulseMove.Within, TimerOp.Orderly]
  have within : ∀ call ∈ settingUpAnew, call.1.Orderly := by
    simp [settingUpAnew, TimerOp.Orderly]
  have handled := onInterrupt_handled orderly within true
  exact ⟨orderly, within, handled, handled.halted (.inr rfl), rfl, rfl⟩

end StepTimer

end MotionControl
