import MotionControl.Pulse.Device

/-!
# Runs of step timers and engines

A run takes a step timer or a step engine through a list of steps: operations, interrupts, and
scripts. A script is a queue of reactions, each a list of steps and whether the callback then asks
to go on. Whenever an interrupt calls the callback, it takes the next reaction and performs its
steps on the very device that is dispatching it; without one it asks to go on. So a step of a
reaction may raise further interrupts, which take further reactions, and may replace the script.

What is still to be done is kept as an agenda, and `Run.exec` works it off. Every item leaves less
to do, because a reaction is taken out of the queue before its steps enter the agenda.
-/

set_option autoImplicit false
set_option relaxedAutoImplicit false

namespace MotionControl

/-! ### Steps and reactions -/

/-- A step of a run: an operation, a number of interrupts, or a new script. The name is the word by
which a record of the run calls the step. -/
inductive PulseStep (Op : Type)
  | call (name : String) (op : Op)
  | interrupts (name : String) (count : Nat)
  | script (name : String) (reactions : List (Bool × List (PulseStep Op)))

/-- The word by which a record of the run calls the step. -/
def PulseStep.name {Op : Type} : PulseStep Op → String
  | call name _ | interrupts name _ | script name _ => name

instance {Op : Type} : Inhabited (PulseStep Op) := ⟨.interrupts "" 0⟩

/-- What a callback does when it is called: whether it asks to go on, after which steps. -/
abbrev Reaction (Op : Type) := Bool × List (PulseStep Op)

/-- What happens in a run: the events of the device, and the answers to the steps of reactions. -/
inductive RunEvent (Op κ : Type)
  | device (event : PulseEvent κ)
  | answered (step : PulseStep Op) (answer : PulseAnswer)

/-- A run between two steps. Peripherals are tagged in the order in which they are brought. -/
structure Run (σ Op : Type) where
  device : σ
  script : List (Reaction Op) := []
  nextTag : Nat := 1
  /-- Whether the peripherals of the run have counters. -/
  counters : Bool := true

/-- Something that is still to be done within a step. -/
inductive AgendaItem (Op : Type)
  /-- A step of a reaction. -/
  | step (step : PulseStep Op)
  | interrupts (count : Nat)
  /-- The end of a step of a reaction. -/
  | answered (step : PulseStep Op) (answer : PulseAnswer)
  /-- The return of a callback. -/
  | afterCallback (goOn : Bool)

namespace AgendaItem

variable {Op : Type}

/-- A bound on what an item leaves to do, the queue of reactions apart. -/
noncomputable def weight : AgendaItem Op → Nat
  | step s => 2 * sizeOf s + 1
  | interrupts count => 2 * count + 1
  | answered .. => 1
  | afterCallback _ => 1

/-- A bound on what an agenda leaves to do. -/
noncomputable def totalWeight : List (AgendaItem Op) → Nat
  | [] => 0
  | item :: rest => item.weight + totalWeight rest

theorem totalWeight_append (first second : List (AgendaItem Op)) :
    totalWeight (first ++ second) = totalWeight first + totalWeight second := by
  induction first with
  | nil => simp [totalWeight]
  | cons item rest ih => simp only [List.cons_append, totalWeight, ih, Nat.add_assoc]

/-- The steps of a reaction, and the return of the callback. -/
def ofReaction (reaction : Reaction Op) : List (AgendaItem Op) :=
  reaction.2.map step ++ [afterCallback reaction.1]

theorem totalWeight_ofReaction_le (reaction : Reaction Op) :
    totalWeight (ofReaction reaction) ≤ 2 * sizeOf reaction := by
  obtain ⟨goOn, steps⟩ := reaction
  have hsteps : totalWeight (steps.map step) ≤ 2 * sizeOf steps := by
    induction steps with
    | nil => simp [totalWeight]
    | cons s rest ih =>
      simp only [List.map_cons, totalWeight, weight, List.cons.sizeOf_spec]
      omega
  simp only [ofReaction, totalWeight_append, totalWeight, weight, Prod.mk.sizeOf_spec]
  omega

end AgendaItem

namespace Run

variable {σ Op κ : Type} [PulseDevice σ Op κ]

/-- Performs one operation. -/
def call (run : Run σ Op) (op : Op) : PulseAnswer × Run σ Op × List (RunEvent Op κ) :=
  let outcome := PulseDevice.perform op ⟨run.nextTag, run.counters, 0, false, 0⟩ run.device
  let nextTag := if PulseDevice.installs σ op then run.nextTag + 1 else run.nextTag
  (outcome.answer, { run with device := outcome.state, nextTag }, outcome.events.map .device)

@[simp] theorem call_script (run : Run σ Op) (op : Op) :
    (run.call (κ := κ) op).2.1.script = run.script := rfl

/-- Works the agenda off. -/
def exec : List (AgendaItem Op) → Run σ Op → Run σ Op × List (RunEvent Op κ)
  | [], run => (run, [])
  | .step (.call name op) :: rest, run =>
    let called := run.call op
    let (last, more) := exec rest called.2.1
    (last, called.2.2 ++ .answered (.call name op) called.1 :: more)
  | .step (.interrupts name count) :: rest, run =>
    exec (.interrupts count :: .answered (.interrupts name count) .done :: rest) run
  | .step (.script name reactions) :: rest, run =>
    let (last, more) := exec rest { run with script := reactions }
    (last, .answered (.script name reactions) .done :: more)
  | .interrupts 0 :: rest, run => exec rest run
  | .interrupts (count + 1) :: rest, run =>
    match PulseDevice.dispatch? run.device with
    | none => exec (.interrupts count :: rest) run
    | some callback =>
      match _hs : run.script with
      | [] =>
        let (last, more) := exec (.afterCallback true :: .interrupts count :: rest) run
        (last, .device (.callback callback) :: more)
      | reaction :: script =>
        let (last, more) :=
          exec (AgendaItem.ofReaction reaction ++ .interrupts count :: rest) { run with script }
        (last, .device (.callback callback) :: more)
  | .answered step answer :: rest, run =>
    let (last, more) := exec rest run
    (last, .answered step answer :: more)
  | .afterCallback goOn :: rest, run =>
    let outcome := PulseDevice.afterCallback run.device goOn
    let (last, more) := exec rest { run with device := outcome.state }
    (last, outcome.events.map .device ++ more)
termination_by agenda run => AgendaItem.totalWeight agenda + 2 * sizeOf run.script
decreasing_by
  all_goals simp only [AgendaItem.totalWeight, AgendaItem.totalWeight_append, AgendaItem.weight,
    call_script, PulseStep.call.sizeOf_spec, PulseStep.interrupts.sizeOf_spec,
    PulseStep.script.sizeOf_spec, sizeOf_nat]
  all_goals try omega
  have := AgendaItem.totalWeight_ofReaction_le reaction
  rw [_hs, List.cons.sizeOf_spec]
  omega

/-- Takes one step of a run. -/
def step (run : Run σ Op) : PulseStep Op → PulseAnswer × Run σ Op × List (RunEvent Op κ)
  | .call _ op => run.call op
  | .interrupts _ count => (.done, exec [.interrupts count] run)
  | .script _ reactions => (.done, { run with script := reactions }, [])

end Run

end MotionControl
