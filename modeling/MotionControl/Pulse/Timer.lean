import MotionControl.Fault
import MotionControl.Pulse.Peripheral
import MotionControl.Settings.Basic

/-!
# The step timer

A step timer calls a step callback from the interrupt of a peripheral. Its base frequency is fixed
when it is set up; a whole number of base ticks between two callbacks divides it down to the
interrupt rate. Ticks beyond the base frequency would give no rate at all, and leave it as it is.

The callback itself may operate the timer, so an interrupt has two parts: which callback is called,
if any (`StepTimer.dispatch?`), and what follows when it returns (`StepTimer.afterCallback`).
-/

set_option autoImplicit false
set_option relaxedAutoImplicit false

namespace MotionControl

/-- A step timer with callbacks from `κ`. A base frequency of zero means that it was never set
up. -/
structure StepTimer (κ : Type) where
  peripheral : Option Peripheral := none
  callback : Option κ := none
  /-- The base frequency in hertz. -/
  frequency : Nat := 0
  /-- The interrupt rate in hertz. -/
  rate : Nat := 0
  /-- The ticks last asked for. -/
  ticks : Nat := 0
  running : Bool := false
  deriving DecidableEq, Repr

namespace StepTimer

variable {κ : Type}

/-- The outcome of an operation on a step timer. -/
abbrev Result (κ α : Type) := Outcome (StepTimer κ) (PulseEvent κ) α

def isInitialized (timer : StepTimer κ) : Bool := timer.frequency != 0

/-- Sends a command to the installed peripheral, if there is one. -/
def send (timer : StepTimer κ) (command : PeripheralCommand) : Result κ Unit :=
  match timer.peripheral with
  | none => .still () timer
  | some peripheral =>
    { answer := ()
      state := { timer with peripheral := some (peripheral.obey command) }
      events := [.command peripheral.tag command] }

/-- Pauses the interrupt if the timer is running. -/
def stop (timer : StepTimer κ) : Result κ Unit :=
  if timer.running then
    let paused := timer.send .pause
    { paused with state := { paused.state with running := false } }
  else .still () timer

/-- Sets the timer up with a new peripheral, a base frequency and a callback. A running timer is
stopped first. -/
def init (timer : StepTimer κ) (peripheral : Peripheral) (hertz : Nat) (callback : κ) :
    Result κ (Except TimerFault Unit) :=
  if hertz = 0 then .still (.error .zeroFrequency) timer
  else
    let stopped := timer.stop
    { answer := .ok ()
      state :=
        { stopped.state with
          peripheral := some ((peripheral.obey .pause).obey (.setFrequency hertz))
          callback := some callback
          frequency := hertz
          rate := hertz
          ticks := 0 }
      events := stopped.events ++
        [.command peripheral.tag .pause, .command peripheral.tag (.setFrequency hertz),
          .log (.timerReady hertz)] }

/-- Sets the timer up with the base frequency of the settings. -/
def initFrom (timer : StepTimer κ) (peripheral : Peripheral) (settings : SteppingSettings)
    (callback : κ) : Result κ (Except TimerFault Unit) :=
  timer.init peripheral settings.timerFrequency.toNat callback

/-- Enables the interrupt, unless it is enabled. -/
def start (timer : StepTimer κ) : Result κ (Except TimerFault Unit) :=
  if !timer.isInitialized then .still (.error .notInitialized) timer
  else if timer.running || timer.peripheral.isNone then .still (.ok ()) timer
  else
    let resumed := timer.send .resume
    { resumed with answer := .ok (), state := { resumed.state with running := true } }

/-- Asks for a number of base ticks between two callbacks. -/
def setTicks (timer : StepTimer κ) (ticks : Nat) : Result κ (Except TimerFault Unit) :=
  if ticks = 0 then .still (.error .zeroTicks) timer
  else if !timer.isInitialized then .still (.error .notInitialized) timer
  else
    let rate := timer.frequency / ticks
    let asked := { timer with ticks }
    if rate = 0 || timer.peripheral.isNone then .still (.ok ()) asked
    else
      let programmed := asked.send (.setFrequency rate)
      { programmed with answer := .ok (), state := { programmed.state with rate } }

/-- Resets the counter of the peripheral, if it has one. -/
def reset (timer : StepTimer κ) : Result κ Unit :=
  if timer.peripheral.any Peripheral.hasCounter then timer.send .resetCount
  else .still () timer

/-- Lets the caller work on the installed peripheral. -/
def withPeripheral {α : Type} (timer : StepTimer κ) (work : Peripheral → α × Peripheral) :
    Result κ (Option α) :=
  match timer.peripheral with
  | none => .still none timer
  | some peripheral =>
    let (answer, worked) := work peripheral
    .still (some answer) { timer with peripheral := some worked }

/-- The callback that an interrupt calls. -/
def dispatch? (timer : StepTimer κ) : Option κ := if timer.running then timer.callback else none

/-- What an interrupt does when the callback has returned: a callback that returned false stops the
timer. -/
def afterCallback (timer : StepTimer κ) (goOn : Bool) : Result κ Unit :=
  if goOn then .still () timer else timer.stop

end StepTimer

end MotionControl
