import MotionControl.Proofs.Pulse.Gate

/-!
# What a step engine relays to its timer

Which calls of a step engine reach its timer can be told from the history alone. A call is *gated
in* if the gate was opened before it, and the engine neither disabled nor set up since, whether or
not the setting up succeeded (`StepEngine.gatedIn`). A call that is gated in is relayed, setting the
engine up is relayed at all times, and every other call is dropped (`EngineOp.relay?`).

Along every course the gate is open exactly where a call would be gated in, and a timer without any
gate that is driven by the relayed calls keeps step with the engine: its state is that of the timer
behind the gate, it does the same to its surroundings, and a call that is relayed answers what it
answers to the timer (`StepEngine.along_relays`).
-/

set_option autoImplicit false
set_option relaxedAutoImplicit false

namespace MotionControl

variable {κ : Type}

/-! ### Relayed calls -/

/-- What an operation of the engine asks of the timer, by whether the call is gated in. What is done
past the gate is no matter of the gate. -/
def EngineOp.relay? (gatedIn : Bool) : EngineOp κ → Option (TimerOp κ)
  | init settings callback => some (.initFrom settings callback)
  | enable => none
  | disable => if gatedIn then some .stop else none
  | setTiming ticks => if gatedIn then some (.setTicks ticks) else none
  | start => if gatedIn then some .start else none
  | stop => if gatedIn then some .stop else none
  | timer op => some op

/-- Whether the event is a message that the gate was opened or closed. -/
def PulseEvent.tellsGate : PulseEvent κ → Bool
  | log .engineEnabled | log .engineDisabled => true
  | _ => false

namespace Deed

/-- The gate was opened. -/
def opensGate : Deed (StepEngine κ) (EngineOp κ) κ → Bool
  | called .enable _ _ outcome => outcome.answer == .done
  | _ => false

/-- The engine was disabled, or set up with or without success. -/
def shutsGate : Deed (StepEngine κ) (EngineOp κ) κ → Bool
  | called .disable _ _ _ | called (.init ..) _ _ _ => true
  | _ => false

/-- The move that a deed of the engine makes the timer take. -/
def relay? (gatedIn : Bool) : Deed (StepEngine κ) (EngineOp κ) κ → Option (PulseMove (TimerOp κ))
  | called op peripheral _ _ => (op.relay? gatedIn).map (.call · peripheral)
  | entered _ | passed => some .interrupt
  | left goOn _ => some (.leave goOn)

end Deed

namespace StepEngine

/-- Whether a call after this history is gated in. -/
def gatedIn (history : List (Deed (StepEngine κ) (EngineOp κ) κ)) : Bool :=
  (since Deed.shutsGate history).any Deed.opensGate

theorem gatedIn_concat (history : List (Deed (StepEngine κ) (EngineOp κ) κ))
    (deed : Deed (StepEngine κ) (EngineOp κ) κ) :
    gatedIn (history ++ [deed]) = (!deed.shutsGate && (gatedIn history || deed.opensGate)) := by
  cases h : deed.shutsGate with
  | false => simp [gatedIn, since_concat history h]
  | true => simp [gatedIn, since_concat_of_resets history h]

/-- The moves that the later part of a history makes the timer take. -/
def relayedMoves (earlier : List (Deed (StepEngine κ) (EngineOp κ) κ)) :
    List (Deed (StepEngine κ) (EngineOp κ) κ) → List (PulseMove (TimerOp κ))
  | [] => []
  | deed :: later =>
    (deed.relay? (gatedIn earlier)).toList ++ relayedMoves (earlier ++ [deed]) later

theorem relayedMoves_concat (earlier later : List (Deed (StepEngine κ) (EngineOp κ) κ))
    (deed : Deed (StepEngine κ) (EngineOp κ) κ) :
    relayedMoves earlier (later ++ [deed]) =
      relayedMoves earlier later ++ (deed.relay? (gatedIn (earlier ++ later))).toList := by
  induction later generalizing earlier with
  | nil => simp [relayedMoves]
  | cons first later ih => simp [relayedMoves, ih]

/-! ### One operation -/

/-- An operation opens and closes the gate exactly as its entry in the history says. -/
theorem enabled_perform (engine : StepEngine κ) (op : EngineOp κ) (peripheral : Peripheral) :
    (op.perform peripheral engine).state.enabled =
      let deed := Deed.called op peripheral engine (op.perform peripheral engine)
      !deed.shutsGate && (engine.enabled || deed.opensGate) := by
  cases op with
  | init settings callback => rfl
  | enable =>
    by_cases hready : engine.timer.isInitialized = true
    · simp [EngineOp.perform, enable, hready, Deed.shutsGate, Deed.opensGate, PulseAnswer.ofResult]
    · simp [EngineOp.perform, enable, hready, Outcome.still, Deed.shutsGate, Deed.opensGate,
        PulseAnswer.ofResult]
  | disable => exact (disable_running engine).1
  | setTiming | start | stop =>
    rw [perform_request engine peripheral rfl]
    cases h : engine.enabled <;> simp [h, Deed.shutsGate, Deed.opensGate]
  | timer op => simp [EngineOp.perform, onTimer, Deed.shutsGate, Deed.opensGate]

/-- What a relayed operation comes to is what it comes to on the timer, messages on the gate
apart. -/
theorem perform_of_relay? {engine : StepEngine κ} {op : EngineOp κ} {relayed : TimerOp κ}
    (h : op.relay? engine.enabled = some relayed) (peripheral : Peripheral) :
    (op.perform peripheral engine).answer = (relayed.perform peripheral engine.timer).answer ∧
      (op.perform peripheral engine).state.timer =
        (relayed.perform peripheral engine.timer).state ∧
      (op.perform peripheral engine).events.filter (!·.tellsGate) =
        (relayed.perform peripheral engine.timer).events.filter (!·.tellsGate) := by
  cases op with
  | init settings callback =>
    cases h
    exact ⟨rfl, rfl, rfl⟩
  | enable => cases h
  | disable =>
    unfold EngineOp.relay? at h
    split_ifs at h with hopen
    cases h
    simp [EngineOp.perform, TimerOp.perform, disable, onTimer, hopen, PulseEvent.tellsGate]
  | setTiming | start | stop =>
    unfold EngineOp.relay? at h
    split_ifs at h with hopen
    cases h
    simp [EngineOp.perform, TimerOp.perform, setTiming, start, stop, onTimer, hopen]
  | timer op =>
    cases h
    exact ⟨rfl, rfl, rfl⟩

/-- An operation that is not relayed leaves the timer alone, and has nothing to object to unless it
was to open the gate. -/
theorem perform_of_relay?_eq_none {engine : StepEngine κ} {op : EngineOp κ}
    (h : op.relay? engine.enabled = none) (peripheral : Peripheral) :
    (op ≠ .enable → (op.perform peripheral engine).answer = .done) ∧
      (op.perform peripheral engine).state.timer = engine.timer ∧
      (op.perform peripheral engine).events.filter (!·.tellsGate) = [] := by
  cases op with
  | init => cases h
  | enable =>
    simp only [EngineOp.perform, enable]
    split_ifs <;> simp [Outcome.still, PulseEvent.tellsGate]
  | disable | setTiming | start | stop =>
    unfold EngineOp.relay? at h
    split_ifs at h with hopen
    simp [EngineOp.perform, disable, setTiming, start, stop, Outcome.still, hopen,
      PulseAnswer.ofResult]
  | timer => cases h

/-! ### Courses in step -/

/-- What a history did to the surroundings of the device, messages on the gate apart. -/
def outwardEvents {σ Op : Type} (history : List (Deed σ Op κ)) : List (PulseEvent κ) :=
  (history.flatMap Deed.events).filter (!·.tellsGate)

theorem outwardEvents_concat {σ Op : Type} (history : List (Deed σ Op κ)) (deed : Deed σ Op κ) :
    outwardEvents (history ++ [deed]) =
      outwardEvents history ++ deed.events.filter (!·.tellsGate) := by
  simp [outwardEvents]

/-- A course of an engine and a course of a timer without a gate are in step. -/
structure InStep (course : Course (StepEngine κ) (EngineOp κ) κ)
    (bare : Course (StepTimer κ) (TimerOp κ) κ) : Prop where
  /-- The gate is open where a call is gated in. -/
  enabled : course.device.enabled = gatedIn course.history
  timer : course.device.timer = bare.device
  underway : course.underway = bare.underway
  outward : outwardEvents course.history = outwardEvents bare.history

/-- The course that a history of the engine makes a timer without a gate take. -/
def bareCourse (history : List (Deed (StepEngine κ) (EngineOp κ) κ)) :
    Course (StepTimer κ) (TimerOp κ) κ :=
  .along {} (relayedMoves [] history)

theorem bareCourse_concat_of_some {history : List (Deed (StepEngine κ) (EngineOp κ) κ)}
    {deed : Deed (StepEngine κ) (EngineOp κ) κ} {move : PulseMove (TimerOp κ)}
    (h : deed.relay? (gatedIn history) = some move) :
    bareCourse (history ++ [deed]) = (bareCourse history).next move := by
  simp [bareCourse, relayedMoves_concat, Course.along, Course.run, h]

theorem bareCourse_concat_of_none {history : List (Deed (StepEngine κ) (EngineOp κ) κ)}
    {deed : Deed (StepEngine κ) (EngineOp κ) κ} (h : deed.relay? (gatedIn history) = none) :
    bareCourse (history ++ [deed]) = bareCourse history := by
  simp [bareCourse, relayedMoves_concat, h]

/-- The two courses do the same next if their next entries do. -/
theorem outwardEvents_concat_congr {history : List (Deed (StepEngine κ) (EngineOp κ) κ)}
    {bare : List (Deed (StepTimer κ) (TimerOp κ) κ)}
    (same : outwardEvents history = outwardEvents bare)
    {deed : Deed (StepEngine κ) (EngineOp κ) κ} {bareDeed : Deed (StepTimer κ) (TimerOp κ) κ}
    (events : deed.events.filter (!·.tellsGate) = bareDeed.events.filter (!·.tellsGate)) :
    outwardEvents (history ++ [deed]) = outwardEvents (bare ++ [bareDeed]) := by
  rw [outwardEvents_concat, outwardEvents_concat, same, events]

variable {course : Course (StepEngine κ) (EngineOp κ) κ}

theorem InStep.call (inStep : InStep course (bareCourse course.history)) (op : EngineOp κ)
    (peripheral : Peripheral) :
    InStep (course.call op peripheral) (bareCourse (course.call op peripheral).history) := by
  let deed := Deed.called op peripheral course.device (op.perform peripheral course.device)
  have hgate : (course.call op peripheral).device.enabled = gatedIn (course.history ++ [deed]) := by
    rw [gatedIn_concat, ← inStep.enabled]
    exact enabled_perform course.device op peripheral
  change InStep (course.call op peripheral) (bareCourse (course.history ++ [deed]))
  have hdeed : deed.relay? (gatedIn course.history) =
      (op.relay? course.device.enabled).map (.call · peripheral) := by
    rw [inStep.enabled]
    rfl
  cases hrelay : op.relay? course.device.enabled with
  | none =>
    obtain ⟨-, htimer, hevents⟩ := perform_of_relay?_eq_none hrelay peripheral
    rw [hrelay] at hdeed
    rw [bareCourse_concat_of_none hdeed]
    refine ⟨hgate, htimer.trans inStep.timer, inStep.underway, ?_⟩
    change outwardEvents (course.history ++ [deed]) = _
    rw [outwardEvents_concat, ← inStep.outward, show deed.events.filter _ = [] from hevents,
      List.append_nil]
  | some relayed =>
    obtain ⟨-, htimer, hevents⟩ := perform_of_relay? hrelay peripheral
    rw [inStep.timer] at htimer hevents
    rw [hrelay] at hdeed
    rw [bareCourse_concat_of_some hdeed]
    exact ⟨hgate, htimer, inStep.underway, outwardEvents_concat_congr inStep.outward hevents⟩

theorem InStep.interrupt (inStep : InStep course (bareCourse course.history)) :
    InStep course.interrupt (bareCourse course.interrupt.history) := by
  have hdispatch : (PulseDevice.dispatch? (bareCourse course.history).device : Option κ) =
      PulseDevice.dispatch? course.device :=
    congrArg StepTimer.dispatch? inStep.timer.symm
  have hgate (deed : Deed (StepEngine κ) (EngineOp κ) κ) (hopens : deed.opensGate = false)
      (hshuts : deed.shutsGate = false) :
      course.device.enabled = gatedIn (course.history ++ [deed]) := by
    simp [gatedIn_concat, hopens, hshuts, inStep.enabled]
  unfold Course.interrupt
  cases hcall : (PulseDevice.dispatch? course.device : Option κ) with
  | none =>
    have hbare : (bareCourse course.history).next .interrupt =
        { bareCourse course.history with
          history := (bareCourse course.history).history ++ [.passed] } := by
      simp [Course.next, Course.interrupt, hdispatch, hcall]
    dsimp only
    rw [bareCourse_concat_of_some rfl, hbare]
    exact ⟨hgate .passed rfl rfl, inStep.timer, inStep.underway,
      outwardEvents_concat_congr inStep.outward rfl⟩
  | some callback =>
    have hbare : (bareCourse course.history).next .interrupt =
        { bareCourse course.history with
          underway := (bareCourse course.history).underway + 1
          history := (bareCourse course.history).history ++ [.entered callback] } := by
      simp [Course.next, Course.interrupt, hdispatch, hcall]
    dsimp only
    rw [bareCourse_concat_of_some rfl, hbare]
    exact ⟨hgate (.entered callback) rfl rfl, inStep.timer, congrArg (· + 1) inStep.underway,
      outwardEvents_concat_congr inStep.outward rfl⟩

theorem InStep.leave (inStep : InStep course (bareCourse course.history)) (goOn : Bool) :
    InStep (course.leave goOn) (bareCourse (course.leave goOn).history) := by
  cases hunderway : course.underway with
  | zero =>
    have hstays : course.leave goOn = course := by simp [Course.leave, hunderway]
    rw [hstays]
    exact inStep
  | succ underway =>
    let deed : Deed (StepEngine κ) (EngineOp κ) κ :=
      .left goOn (PulseDevice.afterCallback course.device goOn)
    have hleft : course.leave goOn =
        { device := (PulseDevice.afterCallback course.device goOn).state
          underway
          history := course.history ++ [deed] } := by
      simp [Course.leave, hunderway, deed]
    have hbare : (bareCourse course.history).next (.leave goOn) =
        { device := (course.device.timer.afterCallback goOn).state
          underway
          history := (bareCourse course.history).history ++
            [.left goOn (course.device.timer.afterCallback goOn)] } := by
      rw [Course.next, Course.leave, ← inStep.underway, hunderway, inStep.timer]
      rfl
    have hgate : course.device.enabled = gatedIn (course.history ++ [deed]) := by
      simp [gatedIn_concat, deed, Deed.opensGate, Deed.shutsGate, inStep.enabled]
    rw [hleft, bareCourse_concat_of_some rfl, hbare]
    exact ⟨hgate, rfl, rfl, outwardEvents_concat_congr inStep.outward rfl⟩

/-- Every course of an engine that was never set up is in step with the course of a timer without a
gate. -/
theorem inStep_along (moves : List (PulseMove (EngineOp κ))) :
    InStep (Course.along ({} : StepEngine κ) moves)
      (bareCourse (Course.along ({} : StepEngine κ) moves).history) := by
  have within : ∀ move ∈ moves, move.Within fun _ : EngineOp κ ↦ True := by
    intro move _
    cases move <;> trivial
  exact Course.run_induction (P := fun course ↦ InStep course (bareCourse course.history))
    ⟨rfl, rfl, rfl, rfl⟩ (fun _ op peripheral _ h ↦ h.call op peripheral)
    (fun _ h ↦ h.interrupt) (fun _ goOn h ↦ h.leave goOn) within

/-- Along every course of an engine that was never set up, the gate is open exactly where a call is
gated in, and the timer without a gate that takes the relayed moves is in step with the engine. A
call that is relayed answers there what it answers to that timer; any other call has nothing to
object to, unless it is to open the gate. -/
theorem along_relays (moves : List (PulseMove (EngineOp κ))) :
    let course := Course.along ({} : StepEngine κ) moves
    let bare := Course.along ({} : StepTimer κ) (relayedMoves [] course.history)
    InStep course bare ∧
      ∀ (op : EngineOp κ) (peripheral : Peripheral),
        (∀ relayed, op.relay? (gatedIn course.history) = some relayed →
          (op.perform peripheral course.device).answer =
            (relayed.perform peripheral bare.device).answer) ∧
        (op.relay? (gatedIn course.history) = none → op ≠ .enable →
          (op.perform peripheral course.device).answer = .done) := by
  intro course bare
  have inStep : InStep course bare := inStep_along moves
  refine ⟨inStep, fun op peripheral ↦ ⟨fun relayed h ↦ ?_, fun h hne ↦ ?_⟩⟩
  · rw [← inStep.enabled] at h
    rw [(perform_of_relay? h peripheral).1, inStep.timer]
  · rw [← inStep.enabled] at h
    exact (perform_of_relay?_eq_none h peripheral).1 hne

end StepEngine

end MotionControl
