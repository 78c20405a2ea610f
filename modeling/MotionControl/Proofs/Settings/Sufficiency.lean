import MotionControl.Proofs.Pulse.Gate
import MotionControl.Proofs.Registry.DriverRequests
import MotionControl.Proofs.Registry.EventOrder
import MotionControl.Proofs.Settings.Acceptance

/-!
# Accepted settings suffice

Settings are checked once, be they from a text or not, and whatever takes them over later has checks
of its own: the builder moves the homing runs into a range, the step timer refuses a base frequency
of zero, the engine does not open over a timer that is not set up. For accepted settings none of
these checks has anything left to do, whatever state the builder, the timer or the engine is in
(`MachineSettings.sufficient_of_accepted`). Only a missing driver or a reset line that is wired can
still make bringing the machine up fail.
-/

set_option autoImplicit false
set_option relaxedAutoImplicit false

namespace MotionControl

/-! ### The builder and the registry -/

/-- Homing runs in their range are taken over as they are. -/
theorem Builder.withHomingRuns_of_range {D : Type} (builder : Builder D) {runs : Nat}
    (fewest : homingRunsRange.1 ≤ runs) (most : runs ≤ homingRunsRange.2) :
    builder.withHomingRuns runs = { builder with homingRuns := runs } := by
  rw [withHomingRuns, Nat.max_eq_left fewest, Nat.min_eq_left most]

namespace Registry

variable {D : Type} [MotorDriver D]

/-- Without a wired reset line, nothing can fail. -/
theorem exists_bringUp_of_unwired {assembled : Registry .parsed D}
    (unwired : assembled.resetLine.any SharedLine.isWired = false) :
    ∃ registry, assembled.bringUp.1 = .ok registry := by
  refine exists_bringUp_of_fails_eq_false (Bool.eq_false_iff.mpr fun hfails ↦ ?_)
  rw [SharedLine.any_isWired_of_any_fails hfails] at unwired
  cases unwired

theorem homingRuns_bringUp {assembled : Registry .parsed D} {registry : Registry .ready D}
    (up : assembled.bringUp.1 = .ok registry) : registry.homingRuns = assembled.homingRuns := by
  rw [bringUp_eq_ok up]
  rfl

end Registry

/-! ### The timer and the engine -/

/-- A timer that is set up and stopped, with its interrupt at the base frequency and disabled. -/
structure StepTimer.Armed {κ : Type} (hertz : Nat) (timer : StepTimer κ) : Prop where
  stopped : timer.running = false
  frequency : timer.frequency = hertz
  rate : timer.rate = hertz
  peripheral : ∃ peripheral, timer.peripheral = some peripheral ∧ peripheral.frequency = hertz ∧
    peripheral.enabled = false

/-- Whatever state the timer is in, a base frequency arms it. -/
theorem StepTimer.initFrom_armed {κ : Type} (timer : StepTimer κ) (peripheral : Peripheral)
    {settings : SteppingSettings} (h : settings.timerFrequency ≠ 0) (callback : κ) :
    (timer.initFrom peripheral settings callback).answer = .ok () ∧
      (timer.initFrom peripheral settings callback).state.Armed settings.timerFrequency.toNat := by
  have hne : settings.timerFrequency.toNat ≠ 0 := fun hzero ↦ h (UInt32.toNat_inj.mp hzero)
  obtain ⟨hanswer, hstate⟩ := init_of_ne_zero hne timer peripheral callback
  refine ⟨hanswer, ?_⟩
  rw [initFrom, hstate]
  exact ⟨rfl, rfl, rfl, _, rfl, rfl, rfl⟩

namespace StepEngine

variable {κ : Type}

/-- The gate opens over a timer that is set up. -/
theorem enable_of_armed {engine : StepEngine κ} {hertz : Nat} (hne : hertz ≠ 0)
    (armed : engine.timer.Armed hertz) :
    engine.enable.answer = .ok () ∧ engine.enable.state = { engine with enabled := true } := by
  simp [enable, StepTimer.isInitialized, armed.frequency, hne]

/-- Behind an open gate, an armed timer starts. -/
theorem start_of_armed {engine : StepEngine κ} (enabled : engine.enabled = true) {hertz : Nat}
    (hne : hertz ≠ 0) (armed : engine.timer.Armed hertz) :
    engine.start.answer = .ok () ∧ engine.start.state.enabled = true ∧
      engine.start.state.timer.running = true ∧
      ∃ peripheral, engine.start.state.timer.peripheral = some peripheral ∧
        peripheral.frequency = hertz ∧ peripheral.enabled = true := by
  obtain ⟨peripheral, hperipheral, hfrequency, -⟩ := armed.peripheral
  have hstart : engine.start = engine.onTimer StepTimer.start := if_pos enabled
  rw [hstart]
  simp [onTimer, StepTimer.start, StepTimer.isInitialized, armed.frequency, hne, armed.stopped,
    hperipheral, StepTimer.send, Peripheral.obey, hfrequency, enabled]

/-- The engine can be set up, opened and started, in this order, and runs then with its interrupt at
the base frequency. -/
structure Startable (engine : StepEngine κ) (peripheral : Peripheral) (settings : SteppingSettings)
    (callback : κ) : Prop where
  init : (engine.init peripheral settings callback).answer = .ok ()
  enable : (engine.init peripheral settings callback).state.enable.answer = .ok ()
  start : (engine.init peripheral settings callback).state.enable.state.start.answer = .ok ()
  enabled : (engine.init peripheral settings callback).state.enable.state.start.state.enabled = true
  running :
    (engine.init peripheral settings callback).state.enable.state.start.state.timer.running = true
  peripheral : ∃ installed,
    (engine.init peripheral settings callback).state.enable.state.start.state.timer.peripheral =
        some installed ∧
      installed.frequency = settings.timerFrequency.toNat ∧ installed.enabled = true

/-- Whatever state the engine is in, a base frequency is enough to start it. -/
theorem startable_of_ne_zero (engine : StepEngine κ) (peripheral : Peripheral)
    {settings : SteppingSettings} (h : settings.timerFrequency ≠ 0) (callback : κ) :
    engine.Startable peripheral settings callback := by
  have hne : settings.timerFrequency.toNat ≠ 0 := fun hzero ↦ h (UInt32.toNat_inj.mp hzero)
  obtain ⟨hinit, hset⟩ := engine.timer.initFrom_armed peripheral h callback
  have armed : (engine.init peripheral settings callback).state.timer.Armed
      settings.timerFrequency.toNat := hset
  obtain ⟨henable, hstate⟩ := enable_of_armed hne armed
  have enabled : (engine.init peripheral settings callback).state.enable.state.enabled = true :=
    congrArg StepEngine.enabled hstate
  have hopened : (engine.init peripheral settings callback).state.enable.state.timer.Armed
      settings.timerFrequency.toNat := by
    rw [hstate]
    exact armed
  obtain ⟨hstart, henabled, hrunning, hinstalled⟩ := start_of_armed enabled hne hopened
  exact ⟨hinit, henable, hstart, henabled, hrunning, hinstalled⟩

end StepEngine

/-! ### Accepted settings -/

namespace MachineSettings

/-- Nothing that takes the settings over can fail on their account. -/
structure Sufficient (settings : MachineSettings) : Prop where
  /-- If there is a driver for every motor, any builder takes the settings over, with the homing
  runs as they are, and if no reset line is wired, the registry comes up. -/
  registry : ∀ (σ D : Type) [MotorDriver D] (source : DriverSource σ D),
    (∀ supply place motor, (source supply place motor).1.isSome = true) →
    ∀ (builder : Builder D) (supply : σ), ∃ after,
      (builder.addSettings settings source supply).answer = .ok after ∧
        after.homingRuns = settings.axes.homingRuns.toNat ∧
        (builder.resetLine.any SharedLine.isWired = false →
          ∃ registry, after.finish.bringUp.1 = .ok registry ∧
            registry.homingRuns = settings.axes.homingRuns.toNat)
  /-- Any timer can be set up, and is stopped then. -/
  timer : ∀ (κ : Type) (timer : StepTimer κ) (peripheral : Peripheral) (callback : κ),
    (timer.initFrom peripheral settings.stepping callback).answer = .ok () ∧
      (timer.initFrom peripheral settings.stepping callback).state.Armed
        settings.stepping.timerFrequency.toNat
  engine : ∀ (κ : Type) (engine : StepEngine κ) (peripheral : Peripheral) (callback : κ),
    engine.Startable peripheral settings.stepping callback

theorem Usable.addSettings {settings : MachineSettings} (usable : settings.Usable) {σ D : Type}
    [MotorDriver D] {source : DriverSource σ D}
    (supplies : ∀ supply place motor, (source supply place motor).1.isSome = true)
    (builder : Builder D) (supply : σ) : ∃ after,
      (builder.addSettings settings source supply).answer = .ok after ∧
        after.homingRuns = settings.axes.homingRuns.toNat ∧
        after.resetLine = builder.resetLine := by
  obtain ⟨after, hafter⟩ := Builder.exists_addSettings supplies builder settings supply
  have hfields := (Builder.addSettings_ok hafter).1
  rw [builder.withHomingRuns_of_range usable.homingRuns.1 usable.homingRuns.2] at hfields
  refine ⟨after, hafter, ?_, ?_⟩
  · rw [hfields]
  · rw [hfields]

/-- Nothing that takes over accepted settings, of whatever text or of none, can fail on their
account. -/
theorem sufficient_of_accepted {settings : MachineSettings}
    (accepted : settings.validate = .ok () ∨ ∃ text, load text = .ok settings) :
    settings.Sufficient := by
  have usable : settings.Usable := usable_of_accepted accepted
  constructor
  case registry =>
    intro σ D _ source supplies builder supply
    obtain ⟨after, hafter, hruns, hreset⟩ := usable.addSettings supplies builder supply
    refine ⟨after, hafter, hruns, fun unwired ↦ ?_⟩
    have hunwired : after.finish.resetLine.any SharedLine.isWired = false :=
      (congrArg (Option.any SharedLine.isWired) hreset).trans unwired
    obtain ⟨registry, hup⟩ := Registry.exists_bringUp_of_unwired hunwired
    exact ⟨registry, hup, (Registry.homingRuns_bringUp hup).trans hruns⟩
  case timer =>
    intro κ timer peripheral callback
    exact timer.initFrom_armed peripheral usable.timerFrequency callback
  case engine =>
    intro κ engine peripheral callback
    exact engine.startable_of_ne_zero peripheral usable.timerFrequency callback

/-- Five homing runs, a slow base frequency, and a motor in the secondary slot of the third axis. -/
def slowText : String :=
  "[stepping]\ntimer_frequency_hz = 250\n[axes]\nhoming_runs = 5\n[axes.z.motor1]\n"

def slowSettings : MachineSettings :=
  { stepping := { timerFrequency := 250 }
    axes :=
      { homingRuns := 5
        axes := #v[none, none, some { motors := .push (.singleton none) (some {}) }, none, none,
          none] } }

/-- The settings are taken over by a builder with a reset line that leads nowhere, and start an
engine that is running already. -/
theorem sufficient_slowText :
    load slowText = .ok slowSettings ∧ slowSettings.Sufficient ∧
      (∃ after registry, (({ homingRuns := 3, resetLine := some .unconnected } :
            Builder NullMotor).addSettings slowSettings (fun asked _ _ ↦ (some {}, asked + 1))
          0).answer = .ok after ∧
        after.finish.bringUp.1 = .ok registry ∧ registry.homingRuns = 5) ∧
      ({ timer := .fitted ⟨1, true, 9, true, 0⟩ "a" 9 1, enabled := true } :
        StepEngine String).Startable ⟨2, false, 0, false, 0⟩ slowSettings.stepping "b" := by
  have hload : load slowText = .ok slowSettings := by decide +kernel
  have sufficient : slowSettings.Sufficient := sufficient_of_accepted (.inr ⟨slowText, hload⟩)
  refine ⟨hload, sufficient, ?_, sufficient.engine ..⟩
  obtain ⟨after, hafter, -, hup⟩ := sufficient.registry Nat NullMotor
    (fun asked _ _ ↦ (some {}, asked + 1)) (fun _ _ _ ↦ rfl)
    { homingRuns := 3, resetLine := some .unconnected } 0
  obtain ⟨registry, hregistry, hruns⟩ := hup rfl
  exact ⟨after, registry, hafter, hregistry, hruns⟩

end MachineSettings

end MotionControl
