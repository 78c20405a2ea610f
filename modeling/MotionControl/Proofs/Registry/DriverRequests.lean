import MotionControl.Proofs.Registry.Sections

/-!
# Requests for drivers

A builder that takes over settings asks its source for the drivers of the configured motors, each
once and with its own section, in the order of axes and slots (`AxesSettings.pairwise_requests`,
`AxesSettings.mem_requests_iff`). It stops at the first motor for which the source has no driver,
and this motor is the one that the fault names; if there is none, it has the drivers of all
(`DriverSource.Asked`). The source may change with every request, so whether it has a driver depends
on the requests before.

What comes of asking is put together from its parts: a request at the front
(`DriverSource.Asked.cons`), and the requests of one axis before those of the others
(`DriverSource.Asked.append`). Mounting the motors of one axis and adding all axes follow this
pattern, and no other fault can stop them (`Builder.asked_addAxes`). So if there is a driver for
every motor, taking over the settings succeeds (`Builder.exists_addSettings`).
-/

set_option autoImplicit false
set_option relaxedAutoImplicit false

namespace MotionControl

variable {σ D : Type}

/-! ### Asking a source -/

namespace DriverSource

/-- Whether a source has a driver for each of some motors when it is asked for one after the
other. -/
def Supplies (source : DriverSource σ D) : List (Place × MotorSettings) → σ → Prop
  | [], _ => True
  | (place, settings) :: rest, supply =>
    (source supply place settings).1.isSome = true ∧
      Supplies source rest (source supply place settings).2

/-- The requests for some motors. -/
def requestEvents (requests : List (Place × MotorSettings)) : List MachineEvent :=
  requests.map fun request ↦ .request request.1 request.2

theorem requestEvents_append (first second : List (Place × MotorSettings)) :
    requestEvents (first ++ second) = requestEvents first ++ requestEvents second :=
  List.map_append

/-- What comes of asking a source for some motors, in order: either it has a driver for each of them
and a result is reached, or there is a first one for which it has none. In this case it is not asked
again, and the fault names that motor. -/
inductive Asked {α : Type} (source : DriverSource σ D) (requests : List (Place × MotorSettings))
    (supply : σ) : Outcome σ MachineEvent (Except Fault α) → Prop
  | supplied (result : α) : source.Supplies requests supply →
    Asked source requests supply
      { answer := .ok result
        state := (source.deal requests supply).2
        events := requestEvents requests }
  | refused {asked rest : List (Place × MotorSettings)} {place : Place} {settings : MotorSettings}
      {left : σ} : requests = asked ++ (place, settings) :: rest → source.Supplies asked supply →
    source (source.deal asked supply).2 place settings = (none, left) →
    Asked source requests supply
      { answer := .error (ConfigFault.driverUnavailable (axisLetter place.axis) place.slot)
        state := left
        events := requestEvents (asked ++ [(place, settings)]) }

variable {α β : Type} {source : DriverSource σ D}

theorem supplies_append {first second : List (Place × MotorSettings)} {supply : σ} :
    source.Supplies (first ++ second) supply ↔
      source.Supplies first supply ∧ source.Supplies second (source.deal first supply).2 := by
  induction first generalizing supply with
  | nil => exact (iff_of_eq (true_and _)).symm
  | cons request first ih => rw [List.cons_append, Supplies, Supplies, ih, and_assoc]; rfl

/-- A source that has a driver for each motor deals one to each place. -/
theorem Supplies.isSome_deal {requests : List (Place × MotorSettings)} {supply : σ}
    (supplies : source.Supplies requests supply) {place : Place}
    (h : place ∈ requests.map Prod.fst) :
    ((source.deal requests supply).1 place).isSome = true := by
  induction requests generalizing supply with
  | nil => cases h
  | cons request rest ih =>
    rw [(deal_cons rfl rest).1]
    split
    next => exact supplies.1
    next hne => exact ih supplies.2 ((List.mem_cons.mp h).resolve_left hne)

/-- A source that never refuses has a driver for each of any motors. -/
theorem supplies_of_forall
    (supplies : ∀ supply place settings, (source supply place settings).1.isSome = true)
    (requests : List (Place × MotorSettings)) (supply : σ) : source.Supplies requests supply := by
  induction requests generalizing supply with
  | nil => trivial
  | cons request rest ih => exact ⟨supplies supply request.1 request.2, ih _⟩

theorem Asked.supplies {requests : List (Place × MotorSettings)} {supply : σ}
    {outcome : Outcome σ MachineEvent (Except Fault α)} {result : α}
    (asked : source.Asked requests supply outcome) (succeeded : outcome.answer = .ok result) :
    source.Supplies requests supply := by
  cases asked with
  | supplied _ hsupplies => exact hsupplies
  | refused => cases succeeded

/-- If there is a driver for each motor, a result is reached. -/
theorem Asked.exists_ok {requests : List (Place × MotorSettings)} {supply : σ}
    {outcome : Outcome σ MachineEvent (Except Fault α)}
    (asked : source.Asked requests supply outcome) (supplies : source.Supplies requests supply) :
    ∃ result, outcome.answer = .ok result := by
  cases asked with
  | supplied result _ => exact ⟨result, rfl⟩
  | refused hrequests _ hnone =>
    rw [hrequests, supplies_append, Supplies, hnone] at supplies
    cases supplies.2.1

/-- A fault is always that of a missing driver. -/
theorem Asked.answer_ne {requests : List (Place × MotorSettings)} {supply : σ}
    {outcome : Outcome σ MachineEvent (Except Fault α)}
    (asked : source.Asked requests supply outcome) (fault : AxisFault) :
    outcome.answer ≠ .error (.axis fault) := by
  intro h
  cases asked <;> cases h

/-- A request at the front that is granted. -/
theorem Asked.cons {place : Place} {settings : MotorSettings} {supply supply' : σ} {driver : D}
    (granted : source supply place settings = (some driver, supply'))
    {rest : List (Place × MotorSettings)} {outcome : Outcome σ MachineEvent (Except Fault α)}
    (asked : source.Asked rest supply' outcome) :
    source.Asked ((place, settings) :: rest) supply
      { outcome with events := .request place settings :: outcome.events } := by
  have hfirst : ∀ {others : List (Place × MotorSettings)}, source.Supplies others supply' →
      source.Supplies ((place, settings) :: others) supply := by
    intro others hothers
    rw [Supplies, granted]
    exact ⟨rfl, hothers⟩
  cases asked with
  | supplied result hsupplies =>
    rw [← (deal_cons granted rest).2]
    exact .supplied result (hfirst hsupplies)
  | @refused earlier later _ _ _ hrequests hsupplies hnone =>
    have hall := congrArg ((place, settings) :: ·) hrequests
    rw [← (deal_cons granted earlier).2] at hnone
    exact .refused hall (hfirst hsupplies) hnone

/-- A request at the front that is refused. -/
theorem Asked.of_refused {place : Place} {settings : MotorSettings} {supply left : σ}
    (refused : source supply place settings = (none, left))
    (rest : List (Place × MotorSettings)) :
    source.Asked ((place, settings) :: rest) supply
      (⟨.error (ConfigFault.driverUnavailable (axisLetter place.axis) place.slot), left,
        [.request place settings]⟩ : Outcome σ MachineEvent (Except Fault α)) := by
  have hfirst : (place, settings) :: rest = [] ++ (place, settings) :: rest := rfl
  exact .refused hfirst trivial refused

/-- Nothing is asked for after a fault. -/
theorem Asked.append_of_error {first : List (Place × MotorSettings)} {supply : σ}
    {outcome : Outcome σ MachineEvent (Except Fault α)} {fault : Fault}
    (asked : source.Asked first supply outcome) (failed : outcome.answer = .error fault)
    (second : List (Place × MotorSettings)) :
    source.Asked (first ++ second) supply
      (⟨.error fault, outcome.state, outcome.events⟩ :
        Outcome σ MachineEvent (Except Fault β)) := by
  cases asked with
  | supplied result _ => cases failed
  | refused hrequests hsupplies hnone =>
    cases failed
    rw [hrequests, List.append_assoc]
    exact .refused rfl hsupplies hnone

/-- Requests that are asked for after others. -/
theorem Asked.append {first second : List (Place × MotorSettings)} {supply : σ}
    {outcome : Outcome σ MachineEvent (Except Fault α)} {result : α}
    {next : Outcome σ MachineEvent (Except Fault β)}
    (asked : source.Asked first supply outcome) (succeeded : outcome.answer = .ok result)
    (asked' : source.Asked second outcome.state next) :
    source.Asked (first ++ second) supply
      { next with events := outcome.events ++ next.events } := by
  cases asked with
  | refused => cases succeeded
  | supplied _ hfirst =>
    cases asked' with
    | supplied result' hsecond =>
      rw [← (source.deal_append first second supply).2, ← requestEvents_append]
      exact .supplied result' (supplies_append.mpr ⟨hfirst, hsecond⟩)
    | @refused earlier rest place settings left hrequests hsecond hnone =>
      have hall : first ++ second = (first ++ earlier) ++ (place, settings) :: rest := by
        rw [hrequests, List.append_assoc]
      rw [← (source.deal_append first earlier supply).2] at hnone
      rw [← requestEvents_append, ← List.append_assoc]
      exact .refused hall (supplies_append.mpr ⟨hfirst, hsecond⟩) hnone

end DriverSource

/-! ### Taking over settings -/

namespace Builder

variable {source : DriverSource σ D}

/-- Mounting motors asks for the motor of each section in turn. -/
theorem asked_mountMotors {motors : List (Nat × Option MotorSettings)}
    (slots : ∀ entry ∈ motors, entry.1 < slotsPerAxis) (axis : Axis D) (supply : σ) :
    source.Asked (motorRequests axis.index motors) supply
      (mountMotors source motors axis supply) := by
  induction motors, axis, supply using mountMotors.induct_unfolding source with
  | case1 axis supply => exact .supplied axis trivial
  | case2 number rest axis supply ih => exact ih (List.forall_mem_cons.mp slots).2
  | case3 number settings rest axis supply place supply' hrefused =>
    exact .of_refused hrefused (motorRequests axis.index rest)
  | case4 number settings rest axis supply place driver supply' hgiven fault hfault =>
    rw [Axis.withMotor, dif_pos (List.forall_mem_cons.mp slots).1] at hfault
    cases hfault
  | case5 number settings rest axis supply place driver supply' hgiven axis' hmount mounted ih =>
    have hindex : axis'.index = axis.index := congrArg (·.index) (Axis.withMotor_ok hmount).1
    have hrest := ih (List.forall_mem_cons.mp slots).2
    rw [hindex] at hrest
    exact hrest.cons hgiven

/-- The axis of a section asks for the motors of this section. -/
theorem asked_section (number : Nat) (settings : AxisSettings) (supply : σ) :
    source.Asked (motorRequests number (numbered settings.motors)) supply
      (mountMotors source (numbered settings.motors) (.ofSettings number settings) supply) :=
  asked_mountMotors (fun _ ↦ lt_of_mem_numbered settings.motors) (.ofSettings number settings)
    supply

/-- Adding axes asks for the motors of each section in turn. -/
theorem asked_addAxes {sections : List (Nat × Option AxisSettings)}
    (indices : ∀ entry ∈ sections, entry.1 < maxAxes) (builder : Builder D) (supply : σ) :
    source.Asked (axisRequests sections) supply (addAxes source sections builder supply) := by
  induction sections, builder, supply using addAxes.induct_unfolding source with
  | case1 builder supply => exact .supplied builder trivial
  | case2 number rest builder supply ih => exact ih (List.forall_mem_cons.mp indices).2
  | case3 number settings rest builder supply motors mounted fault hfault =>
    exact (asked_section number settings supply).append_of_error hfault (axisRequests rest)
  | case4 number settings rest builder supply motors mounted axis haxis fault hfault =>
    have hnumber : axis.index = number := (mountMotors_ofSettings haxis).2 ▸ rfl
    have hfits : axis.index < maxAxes := hnumber ▸ (List.forall_mem_cons.mp indices).1
    rw [addAxis, dif_pos hfits] at hfault
    cases hfault
  | case5 number settings rest builder supply motors mounted axis haxis builder' hadd added ih =>
    have hrest := ih (List.forall_mem_cons.mp indices).2
    exact (asked_section number settings supply).append haxis hrest

/-- Taking over settings asks for the motors of all sections. -/
theorem asked_addSettings (builder : Builder D) (settings : MachineSettings)
    (source : DriverSource σ D) (supply : σ) :
    source.Asked settings.axes.requests supply (builder.addSettings settings source supply) :=
  asked_addAxes (fun _ ↦ lt_of_mem_numbered settings.axes.axes) _ supply

/-- If there is a driver for every motor, the settings can be taken over. -/
theorem exists_addSettings {source : DriverSource σ D}
    (supplies : ∀ supply place settings, (source supply place settings).1.isSome = true)
    (builder : Builder D) (settings : MachineSettings) (supply : σ) :
    ∃ after, (builder.addSettings settings source supply).answer = .ok after :=
  (asked_addSettings builder settings source supply).exists_ok
    (DriverSource.supplies_of_forall supplies settings.axes.requests supply)

/-- What a builder is that took over settings with drivers that were given by place. -/
structure TookOver (builder : Builder D) (settings : MachineSettings) (given : Place → Option D)
    (after : Builder D) : Prop where
  /-- The axis of a section replaces whatever was at its index, and has the motors of the section,
  each with the driver that was given for its place. -/
  configured : ∀ index configured, settings.axes.axis? index = some configured →
    ∃ axis, after.axes[index]? = some (some axis) ∧ axis.bare = .ofSettings index configured ∧
      (∀ slot, configured.motor? slot = none → axis.motor? slot = none) ∧
      ∀ slot motor, configured.motor? slot = some motor →
        ∃ driver, given ⟨index, slot⟩ = some driver ∧
          axis.motor? slot = some (.ofSettings driver motor)
  untouched : ∀ index, settings.axes.axis? index = none →
    after.axes[index]? = builder.axes[index]?
  shared : after =
    { builder.withHomingRuns settings.axes.homingRuns.toNat with
      axes := after.axes
      disableDelay := settings.stepping.disableDelay.toNat }

theorem tookOver_of_addSettings {builder after : Builder D} {settings : MachineSettings}
    {supply : σ} (supplies : source.Supplies settings.axes.requests supply)
    (h : (builder.addSettings settings source supply).answer = .ok after) :
    builder.TookOver settings (source.deal settings.axes.requests supply).1 after := by
  obtain ⟨hshared, haxes⟩ := addSettings_ok h
  constructor
  case configured =>
    intro index configured hconfigured
    have hindex := haxes index
    rw [configured?, hconfigured] at hindex
    refine ⟨_, hindex, rfl, fun slot hnone ↦ ?_, fun slot motor hmotor ↦ ?_⟩
    · rw [Axis.motor?_ofSection, hnone, Option.bind_none]
    · have hasked : settings.axes.motor? ⟨index, slot⟩ = some motor :=
        Option.bind_eq_some_iff.mpr ⟨configured, hconfigured, hmotor⟩
      have hsome := supplies.isSome_deal (AxesSettings.mem_requests hasked)
      obtain ⟨driver, hdriver⟩ := Option.isSome_iff_exists.mp hsome
      refine ⟨driver, hdriver, ?_⟩
      rw [Axis.motor?_ofSection, hmotor, Option.bind_some, hdriver, Option.map_some]
  case untouched =>
    intro index hnone
    rw [haxes index, configured?, hnone]
    rfl
  case shared => exact hshared

/-- Whatever the builder, the settings and the source, the configured motors are asked for in the
order of axes and slots, up to the first for which there is no driver. That one is the fault;
without it the settings are taken over, each axis with the drivers that were given for it. -/
theorem addSettings_requests (builder : Builder D) (settings : MachineSettings)
    (source : DriverSource σ D) (supply : σ) :
    (settings.axes.requests.map Prod.fst).Pairwise Place.Before ∧
      (∀ place motor, (place, motor) ∈ settings.axes.requests ↔
        settings.axes.motor? place = some motor) ∧
      source.Asked settings.axes.requests supply (builder.addSettings settings source supply) ∧
      (∀ after, (builder.addSettings settings source supply).answer = .ok after →
        builder.TookOver settings (source.deal settings.axes.requests supply).1 after) ∧
      ∀ fault : AxisFault,
        (builder.addSettings settings source supply).answer ≠ .error (.axis fault) := by
  have hasked := asked_addSettings builder settings source supply
  exact ⟨settings.axes.pairwise_requests, fun _ _ ↦ AxesSettings.mem_requests_iff, hasked,
    fun after hafter ↦ tookOver_of_addSettings (hasked.supplies hafter) hafter, hasked.answer_ne⟩

/-- A source with a number of drivers left, each named by that number. -/
def countdown : DriverSource Nat Nat := fun left _ _ ↦
  (if left = 0 then none else some left, left - 1)

/-- The second axis has two motors, the fourth a primary one. -/
def threeMotors : MachineSettings :=
  let second : AxisSettings := { motors := #v[some { pulloff := ⟨2⟩ }, some {}] }
  let fourth : AxisSettings := { motors := #v[some { pulloff := ⟨3⟩ }, none] }
  { axes := { axes := #v[none, some second, none, some fourth, none, none] } }

/-- A builder that has the second and the fifth axis already. -/
def secondAndFifth : Builder Nat :=
  { axes := #v[none, some (.ofIndex 1), none, none, some (.withHoming (.ofIndex 4) {}), none] }

/-- With three drivers left the second axis is replaced and the fifth kept; with one driver left the
second motor is refused and the third not asked for. -/
theorem addSettings_requests_countdown :
    (∃ after, (secondAndFifth.addSettings threeMotors countdown 3).answer = .ok after ∧
      secondAndFifth.TookOver threeMotors (countdown.deal threeMotors.axes.requests 3).1 after ∧
      after.finish.motor? ⟨1, 1⟩ = some (.ofSettings 2 {}) ∧
      after.finish.axis? 4 = some (.withHoming (.ofIndex 4) {})) ∧
    countdown.Asked threeMotors.axes.requests 1
        (secondAndFifth.addSettings threeMotors countdown 1) ∧
      (secondAndFifth.addSettings threeMotors countdown 1).answer =
        .error (.config (.driverUnavailable 'Y' 1)) ∧
      (secondAndFifth.addSettings threeMotors countdown 1).events =
        [.request ⟨1, 0⟩ { pulloff := ⟨2⟩ }, .request ⟨1, 1⟩ {}] := by
  obtain ⟨-, -, -, htook, -⟩ := addSettings_requests secondAndFifth threeMotors countdown 3
  obtain ⟨-, -, hasked, -, -⟩ := addSettings_requests secondAndFifth threeMotors countdown 1
  exact ⟨⟨_, rfl, htook _ rfl, rfl, rfl⟩, hasked, rfl, rfl⟩

end Builder

end MotionControl
