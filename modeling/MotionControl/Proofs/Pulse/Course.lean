import MotionControl.Pulse.Run

/-!
# Courses of step timers and engines

A course takes a device through moves: an operation is called, an interrupt arrives, a callback
returns. Between the interrupt that called a callback and the return of that callback, the moves are
what the callback does, so a list of moves is a run of the device together with all that its
callbacks did in it, whatever they decided it by. A return is only a move while a callback is under
way.

Every move leaves an entry in the history of the course. The runs that take their callbacks from a
script are courses (`Run.step_isCourse`), so what holds of every course holds of them.
-/

set_option autoImplicit false
set_option relaxedAutoImplicit false

namespace MotionControl

/-- A move of a course. -/
inductive PulseMove (Op : Type)
  /-- An operation is called, with a peripheral at hand in case that it brings one. -/
  | call (op : Op) (peripheral : Peripheral)
  | interrupt
  /-- The callback called last returns. -/
  | leave (goOn : Bool)

/-- Whether the move keeps to the operations of a kind. -/
def PulseMove.Within {Op : Type} (kind : Op → Prop) : PulseMove Op → Prop
  | call op _ => kind op
  | interrupt | leave _ => True

/-- What a move came to. -/
inductive Deed (σ Op κ : Type)
  /-- An operation was called on the device as it was before. -/
  | called (op : Op) (peripheral : Peripheral) (before : σ)
      (outcome : Outcome σ (PulseEvent κ) PulseAnswer)
  /-- An interrupt called a callback. -/
  | entered (callback : κ)
  /-- An interrupt called nothing. -/
  | passed
  /-- A callback returned. -/
  | left (goOn : Bool) (outcome : Outcome σ (PulseEvent κ) Unit)

namespace Deed

variable {σ Op κ : Type}

/-- The operation that was called. -/
def op? : Deed σ Op κ → Option Op
  | called op _ _ _ => some op
  | _ => none

/-- Whether an operation was called and did not fail. -/
def granted : Deed σ Op κ → Bool
  | called _ _ _ outcome => outcome.answer == .done
  | _ => false

/-- What the device did to its surroundings. -/
def events : Deed σ Op κ → List (PulseEvent κ)
  | called _ _ _ outcome => outcome.events
  | entered callback => [.callback callback]
  | passed => []
  | left _ outcome => outcome.events

end Deed

/-- A device with the number of callbacks that are under way and the history that led to it. -/
structure Course (σ Op κ : Type) where
  device : σ
  underway : Nat := 0
  history : List (Deed σ Op κ) := []

namespace Course

variable {σ Op κ : Type} [PulseDevice σ Op κ]

/-- The course after an operation. -/
def call (course : Course σ Op κ) (op : Op) (peripheral : Peripheral) : Course σ Op κ :=
  let outcome := PulseDevice.perform op peripheral course.device
  { course with
    device := outcome.state
    history := course.history ++ [.called op peripheral course.device outcome] }

/-- The course after an interrupt. -/
def interrupt (course : Course σ Op κ) : Course σ Op κ :=
  match PulseDevice.dispatch? course.device with
  | none => { course with history := course.history ++ [.passed] }
  | some callback =>
    { course with
      underway := course.underway + 1
      history := course.history ++ [.entered callback] }

/-- The course after the return of a callback. -/
def leave (course : Course σ Op κ) (goOn : Bool) : Course σ Op κ :=
  match course.underway with
  | 0 => course
  | underway + 1 =>
    let outcome := PulseDevice.afterCallback course.device goOn
    { device := outcome.state, underway, history := course.history ++ [.left goOn outcome] }

/-- The course after a move. -/
def next (course : Course σ Op κ) : PulseMove Op → Course σ Op κ
  | .call op peripheral => course.call op peripheral
  | .interrupt => course.interrupt
  | .leave goOn => course.leave goOn

/-- The course after a list of moves. -/
def run (course : Course σ Op κ) (moves : List (PulseMove Op)) : Course σ Op κ :=
  moves.foldl next course

/-- The course of a device along a list of moves, from a point where no callback is under way. -/
def along (device : σ) (moves : List (PulseMove Op)) : Course σ Op κ :=
  (⟨device, 0, []⟩ : Course σ Op κ).run moves

/-- The course from here on, without the history that led here. -/
def afresh (course : Course σ Op κ) : Course σ Op κ := { course with history := [] }

/-- What a move comes to does not depend on the history before it. -/
theorem next_append_history (course : Course σ Op κ) (move : PulseMove Op)
    (earlier : List (Deed σ Op κ)) :
    { course with history := earlier ++ course.history }.next move =
      { course.next move with history := earlier ++ (course.next move).history } := by
  cases move with
  | call op peripheral => simp [next, call]
  | interrupt =>
    unfold next interrupt
    dsimp only
    split <;> simp
  | leave goOn =>
    unfold next leave
    dsimp only
    split <;> simp

theorem run_afresh (course : Course σ Op κ) (moves : List (PulseMove Op)) :
    course.run moves =
      { course.afresh.run moves with
        history := course.history ++ (course.afresh.run moves).history } := by
  have hrun (after : Course σ Op κ) :
      { after with history := course.history ++ after.history }.run moves =
        { after.run moves with history := course.history ++ (after.run moves).history } := by
    induction moves generalizing after with
    | nil => rfl
    | cons move moves ih =>
      have hnext := ih (after.next move)
      rw [← next_append_history] at hnext
      exact hnext
  have hcourse := hrun course.afresh
  rw [show course.afresh.history = [] from rfl, List.append_nil] at hcourse
  exact hcourse

/-- What holds of a course and is kept by every move within a kind of operations holds after all
such moves. -/
theorem run_induction {P : Course σ Op κ → Prop} {kind : Op → Prop} {course : Course σ Op κ}
    (start : P course)
    (call : ∀ course op peripheral, kind op → P course → P (course.call op peripheral))
    (interrupt : ∀ course, P course → P course.interrupt)
    (leave : ∀ course goOn, P course → P (course.leave goOn))
    {moves : List (PulseMove Op)} (within : ∀ move ∈ moves, move.Within kind) :
    P (course.run moves) := by
  refine List.foldlRecOn moves next start fun course hcourse move hmove ↦ ?_
  cases move with
  | call op peripheral => exact call course op peripheral (within _ hmove) hcourse
  | interrupt => exact interrupt course hcourse
  | leave goOn => exact leave course goOn hcourse

/-- The same, deed by deed: what an interrupt and the return of a callback come to is told by their
entries in the history. -/
theorem run_induction_deeds {P : Course σ Op κ → Prop} {kind : Op → Prop} {course : Course σ Op κ}
    (start : P course)
    (called : ∀ course op peripheral, kind op → P course → P (course.call op peripheral))
    (passed : ∀ course : Course σ Op κ, PulseDevice.dispatch? course.device = none → P course →
      P { course with history := course.history ++ [.passed] })
    (entered : ∀ (course : Course σ Op κ) (callback : κ),
      PulseDevice.dispatch? course.device = some callback → P course →
        P { course with
          underway := course.underway + 1
          history := course.history ++ [.entered callback] })
    (left : ∀ (course : Course σ Op κ) (underway : Nat) (goOn : Bool), P course →
      P { device := (PulseDevice.afterCallback course.device goOn).state
          underway
          history := course.history ++
            [.left goOn (PulseDevice.afterCallback course.device goOn)] })
    {moves : List (PulseMove Op)} (within : ∀ move ∈ moves, move.Within kind) :
    P (course.run moves) := by
  refine run_induction start called (fun course hcourse ↦ ?_) (fun course goOn hcourse ↦ ?_) within
  · unfold interrupt
    split
    next hidle => exact passed course hidle hcourse
    next callback hcall => exact entered course callback hcall hcourse
  · unfold leave
    split
    · exact hcourse
    next underway _ => exact left course underway goOn hcourse

end Course

/-! ### Scripted runs are courses -/

/-- Whether a step of a run keeps to the operations of a kind, in its scripts too. -/
inductive PulseStep.Within {Op : Type} (kind : Op → Prop) : PulseStep Op → Prop
  | call {name : String} {op : Op} : kind op → Within kind (.call name op)
  | interrupts {name : String} {count : Nat} : Within kind (.interrupts name count)
  | script {name : String} {reactions : List (Bool × List (PulseStep Op))} :
    (∀ reaction ∈ reactions, ∀ step ∈ reaction.2, Within kind step) →
      Within kind (.script name reactions)

/-- Whether what is still to be done keeps to the operations of a kind. -/
def AgendaItem.Within {Op : Type} (kind : Op → Prop) : AgendaItem Op → Prop
  | step s => s.Within kind
  | interrupts _ | answered .. | afterCallback _ => True

/-- The returns of callbacks on an agenda. -/
def AgendaItem.returns {Op : Type} : List (AgendaItem Op) → Nat
  | [] => 0
  | afterCallback _ :: rest => returns rest + 1
  | _ :: rest => returns rest

theorem AgendaItem.returns_ofReaction_append {Op : Type} (reaction : Reaction Op)
    (rest : List (AgendaItem Op)) : returns (ofReaction reaction ++ rest) = returns rest + 1 := by
  obtain ⟨goOn, steps⟩ := reaction
  induction steps with
  | nil => rfl
  | cons s steps ih => simpa [ofReaction, returns] using ih

/-- What the device did, apart from the answers that a run records. -/
def RunEvent.device? {Op κ : Type} : RunEvent Op κ → Option (PulseEvent κ)
  | device event => some event
  | answered .. => none

namespace Run

variable {σ Op κ : Type} [PulseDevice σ Op κ]

/-- Whether the script of a run keeps to the operations of a kind. -/
def Within (kind : Op → Prop) (run : Run σ Op) : Prop :=
  ∀ reaction ∈ run.script, ∀ step ∈ reaction.2, step.Within kind

/-- What came of a run while callbacks were under way is what comes of moves of a kind, and the
entries of the course tell what the device did. -/
def IsCourse (kind : Op → Prop) (underway : Nat) (run : Run σ Op)
    (result : Run σ Op × List (RunEvent Op κ)) : Prop :=
  ∃ (moves : List (PulseMove Op)) (entries : List (Deed σ Op κ)),
    (∀ move ∈ moves, move.Within kind) ∧
    (∀ history, (⟨run.device, underway, history⟩ : Course σ Op κ).run moves =
      ⟨result.1.device, 0, history ++ entries⟩) ∧
    entries.flatMap Deed.events = result.2.filterMap RunEvent.device? ∧
    result.1.Within kind

theorem IsCourse.nil {kind : Op → Prop} {run last : Run σ Op} (device : last.device = run.device)
    (script : last.Within kind) : IsCourse (κ := κ) kind 0 run (last, []) :=
  ⟨[], [], fun _ hmove ↦ absurd hmove List.not_mem_nil,
    fun history ↦ by simp [Course.run, device], rfl, script⟩

theorem IsCourse.cons {kind : Op → Prop} {underway underway' : Nat} {run run' : Run σ Op}
    {result : Run σ Op × List (RunEvent Op κ)} (rest : IsCourse kind underway' run' result)
    (move : PulseMove Op) (deed : Deed σ Op κ) (events : List (RunEvent Op κ))
    (within : move.Within kind)
    (next : ∀ history, (⟨run.device, underway, history⟩ : Course σ Op κ).next move =
      ⟨run'.device, underway', history ++ [deed]⟩)
    (told : deed.events = events.filterMap RunEvent.device?) :
    IsCourse kind underway run (result.1, events ++ result.2) := by
  obtain ⟨moves, entries, hmoves, hrun, hevents, hscript⟩ := rest
  refine ⟨move :: moves, deed :: entries, ?_, fun history ↦ ?_, ?_, hscript⟩
  · exact List.forall_mem_cons.mpr ⟨within, hmoves⟩
  · have hrest := hrun (history ++ [deed])
    rw [← next history, List.append_assoc] at hrest
    exact hrest
  · rw [List.flatMap_cons, List.filterMap_append, told, hevents]

theorem IsCourse.answered {kind : Op → Prop} {underway : Nat} {run : Run σ Op}
    {result : Run σ Op × List (RunEvent Op κ)} (course : IsCourse kind underway run result)
    (step : PulseStep Op) (answer : PulseAnswer) :
    IsCourse kind underway run (result.1, .answered step answer :: result.2) := by
  obtain ⟨moves, entries, hmoves, hrun, hevents, hscript⟩ := course
  exact ⟨moves, entries, hmoves, hrun, by rw [hevents]; rfl, hscript⟩

theorem filterMap_device? (events : List (PulseEvent κ)) :
    (events.map (.device : PulseEvent κ → RunEvent Op κ)).filterMap RunEvent.device? = events := by
  rw [List.filterMap_map]
  exact List.filterMap_some

/-- Working off an agenda of a kind is a course. -/
theorem exec_isCourse {kind : Op → Prop} (agenda : List (AgendaItem Op)) (run : Run σ Op)
    (items : ∀ item ∈ agenda, item.Within kind) (script : run.Within kind) :
    IsCourse (κ := κ) kind (AgendaItem.returns agenda) run (exec agenda run) := by
  induction agenda, run using exec.induct_unfolding with
  | case1 run => exact .nil rfl script
  | case2 name op rest run called last more hrest ih =>
    obtain ⟨hstep, hitems⟩ := List.forall_mem_cons.mp items
    have hcourse := ih hitems script
    rw [hrest] at hcourse
    cases hstep with
    | call hop =>
      let peripheral : Peripheral := ⟨run.nextTag, run.counters, 0, false, 0⟩
      exact (hcourse.answered (.call name op) called.1).cons (.call op peripheral)
        (.called op peripheral run.device (PulseDevice.perform op peripheral run.device)) _ hop
        (fun _ ↦ rfl) (filterMap_device? _).symm
  | case3 name count rest run ih =>
    obtain ⟨-, hitems⟩ := List.forall_mem_cons.mp items
    exact ih (by simpa [AgendaItem.Within] using hitems) script
  | case4 name reactions rest run last more hrest ih =>
    obtain ⟨hstep, hitems⟩ := List.forall_mem_cons.mp items
    cases hstep with
    | script hreactions =>
      have hcourse := ih hitems hreactions
      rw [hrest] at hcourse
      exact hcourse.answered (.script name reactions) .done
  | case5 rest run ih => exact ih (List.forall_mem_cons.mp items).2 script
  | case6 count rest run hidle ih =>
    obtain ⟨-, hitems⟩ := List.forall_mem_cons.mp items
    refine (ih (by simpa [AgendaItem.Within] using hitems) script).cons .interrupt .passed []
      trivial (fun history ↦ ?_) rfl
    simp [Course.next, Course.interrupt, hidle, AgendaItem.returns]
  | case7 count rest run callback hcall hscript last more hrest ih =>
    obtain ⟨-, hitems⟩ := List.forall_mem_cons.mp items
    have hcourse := ih (by simpa [AgendaItem.Within] using hitems) script
    rw [hrest] at hcourse
    refine hcourse.cons .interrupt (.entered callback) [.device (.callback callback)] trivial
      (fun history ↦ ?_) rfl
    simp [Course.next, Course.interrupt, hcall, AgendaItem.returns]
  | case8 count rest run callback hcall reaction reactions hscript last more hrest ih =>
    obtain ⟨-, hitems⟩ := List.forall_mem_cons.mp items
    rw [Within, hscript] at script
    obtain ⟨hreaction, hreactions⟩ := List.forall_mem_cons.mp script
    have hcourse := ih (by
      simpa [AgendaItem.ofReaction, AgendaItem.Within, or_imp, forall_and] using
        ⟨hreaction, hitems⟩) hreactions
    rw [hrest, AgendaItem.returns_ofReaction_append] at hcourse
    refine hcourse.cons .interrupt (.entered callback) [.device (.callback callback)] trivial
      (fun history ↦ ?_) rfl
    simp [Course.next, Course.interrupt, hcall, AgendaItem.returns]
  | case9 step answer rest run last more hrest ih =>
    have hcourse := ih (List.forall_mem_cons.mp items).2 script
    rw [hrest] at hcourse
    exact hcourse.answered step answer
  | case10 goOn rest run outcome last more hrest ih =>
    have hcourse := ih (List.forall_mem_cons.mp items).2 script
    rw [hrest] at hcourse
    exact hcourse.cons (.leave goOn) (.left goOn (PulseDevice.afterCallback run.device goOn)) _
      trivial (fun _ ↦ rfl) (filterMap_device? _).symm

/-- A step of a run is a course of moves of its kind, which leaves no callback under way. -/
theorem step_isCourse {kind : Op → Prop} (run : Run σ Op) {step : PulseStep Op}
    (within : step.Within kind) (script : run.Within kind) :
    IsCourse (κ := κ) kind 0 run (run.step step).2 := by
  cases within with
  | @call name op hop =>
    let peripheral : Peripheral := ⟨run.nextTag, run.counters, 0, false, 0⟩
    let called := run.call (κ := κ) op
    have hdone : IsCourse kind 0 called.2.1 (called.2.1, []) := .nil rfl script
    have hcourse : IsCourse kind 0 run (called.2.1, called.2.2 ++ []) :=
      hdone.cons (.call op peripheral)
        (.called op peripheral run.device (PulseDevice.perform op peripheral run.device)) _ hop
        (fun _ ↦ rfl) (filterMap_device? _).symm
    rw [List.append_nil] at hcourse
    exact hcourse
  | @interrupts name count =>
    exact exec_isCourse [.interrupts count] run (by simp [AgendaItem.Within]) script
  | script hreactions => exact .nil rfl hreactions

end Run

end MotionControl
