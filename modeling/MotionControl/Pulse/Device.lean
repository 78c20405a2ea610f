import MotionControl.Pulse.Engine

/-!
# Devices and their operations

The operations on step timers and step engines as data, with one form of answer, so that lists of
operations can be carried out. A device is what is driven by such operations and by interrupts.
-/

set_option autoImplicit false
set_option relaxedAutoImplicit false

namespace MotionControl

/-- What an operation answers. -/
inductive PulseAnswer
  | done
  | fault (fault : TimerFault)
  | number (value : Nat)
  | nothing
  deriving DecidableEq, Repr

def PulseAnswer.ofResult : Except TimerFault Unit → PulseAnswer
  | .ok () => done
  | .error reason => fault reason

/-- An operation on a step timer. Setting it up brings a new peripheral. -/
inductive TimerOp (κ : Type)
  | init (hertz : Nat) (callback : κ)
  | initFrom (settings : SteppingSettings) (callback : κ)
  | start
  | stop
  | setTicks (ticks : Nat)
  | reset
  /-- Programs the installed peripheral past the timer; answers its old frequency. -/
  | poke (hertz : Nat)
  deriving DecidableEq, Repr

/-- An operation on a step engine. -/
inductive EngineOp (κ : Type)
  | init (settings : SteppingSettings) (callback : κ)
  | enable
  | disable
  | setTiming (ticks : Nat)
  | start
  | stop
  /-- An operation on the timer past the gate. -/
  | timer (op : TimerOp κ)
  deriving DecidableEq, Repr

namespace TimerOp

variable {κ : Type}

/-- Whether the operation brings a new peripheral. -/
def installs : TimerOp κ → Bool
  | init .. | initFrom .. => true
  | _ => false

def perform (op : TimerOp κ) (peripheral : Peripheral) (timer : StepTimer κ) :
    StepTimer.Result κ PulseAnswer :=
  let answering {α : Type} (outcome : StepTimer.Result κ α) (answer : α → PulseAnswer) :
      StepTimer.Result κ PulseAnswer :=
    ⟨answer outcome.answer, outcome.state, outcome.events⟩
  match op with
  | init hertz callback => answering (timer.init peripheral hertz callback) .ofResult
  | initFrom settings callback => answering (timer.initFrom peripheral settings callback) .ofResult
  | start => answering timer.start .ofResult
  | stop => answering timer.stop fun _ ↦ .done
  | setTicks ticks => answering (timer.setTicks ticks) .ofResult
  | reset => answering timer.reset fun _ ↦ .done
  | poke hertz =>
    answering
      (timer.withPeripheral fun peripheral ↦
        (peripheral.frequency, { peripheral with frequency := hertz }))
      fun answer ↦ answer.elim .nothing .number

end TimerOp

namespace EngineOp

variable {κ : Type}

/-- Whether the operation brings a new peripheral. -/
def installs : EngineOp κ → Bool
  | init .. => true
  | timer op => op.installs
  | _ => false

def perform (op : EngineOp κ) (peripheral : Peripheral) (engine : StepEngine κ) :
    StepEngine.Result κ PulseAnswer :=
  let answering {α : Type} (outcome : StepEngine.Result κ α) (answer : α → PulseAnswer) :
      StepEngine.Result κ PulseAnswer :=
    ⟨answer outcome.answer, outcome.state, outcome.events⟩
  match op with
  | init settings callback => answering (engine.init peripheral settings callback) .ofResult
  | enable => answering engine.enable .ofResult
  | disable => answering engine.disable fun _ ↦ .done
  | setTiming ticks => answering (engine.setTiming ticks) .ofResult
  | start => answering engine.start .ofResult
  | stop => answering engine.stop fun _ ↦ .done
  | timer op => answering (engine.onTimer (op.perform peripheral)) id

end EngineOp

/-! ### Devices -/

/-- A device `σ` that is driven by operations `Op` and interrupts, and calls callbacks from `κ`. -/
class PulseDevice (σ : Type) (Op κ : outParam Type) where
  installs : Op → Bool
  perform : Op → Peripheral → σ → Outcome σ (PulseEvent κ) PulseAnswer
  dispatch? : σ → Option κ
  afterCallback : σ → Bool → Outcome σ (PulseEvent κ) Unit

instance {κ : Type} : PulseDevice (StepTimer κ) (TimerOp κ) κ where
  installs := TimerOp.installs
  perform := TimerOp.perform
  dispatch? := StepTimer.dispatch?
  afterCallback := StepTimer.afterCallback

instance {κ : Type} : PulseDevice (StepEngine κ) (EngineOp κ) κ where
  installs := EngineOp.installs
  perform := EngineOp.perform
  dispatch? engine := engine.timer.dispatch?
  afterCallback engine goOn := engine.onTimer fun timer ↦ timer.afterCallback goOn

end MotionControl
