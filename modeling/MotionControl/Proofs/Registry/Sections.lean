import MotionControl.Proofs.Registry.Assembly

/-!
# Axes from settings

The settings of a machine name its motors in the order of axes and slots
(`AxesSettings.requests`). A builder asks its source for the drivers of these motors in this order,
each time in the state in which the last request left the source; `DriverSource.deal` is what it is
given, place by place. Whenever taking over the settings succeeds, each configured axis stands at
its index, with a motor in each slot for which its own section has one, and all other indices are as
they were (`Builder.addSettings_ok`).
-/

set_option autoImplicit false
set_option relaxedAutoImplicit false

namespace MotionControl

variable {σ D : Type}

/-! ### Numbered sections -/

section Numbered

variable {α : Type} {n : Nat}

/-- Sections with their numbers. -/
def numbered (sections : Vector (Option α) n) : List (Nat × Option α) :=
  sections.toList.zipIdx.map Prod.swap

theorem map_fst_numbered (sections : Vector (Option α) n) :
    (numbered sections).map Prod.fst = List.range n := by
  have hswap : (Prod.fst ∘ Prod.swap : Option α × Nat → Nat) = Prod.snd := rfl
  rw [numbered, List.map_map, hswap, List.zipIdx_map_snd, Vector.length_toList,
    List.range_eq_range']

theorem lt_of_mem_numbered (sections : Vector (Option α) n) {entry : Nat × Option α}
    (h : entry ∈ numbered sections) : entry.1 < n := by
  have hnumber : entry.1 ∈ (numbered sections).map Prod.fst := List.mem_map_of_mem h
  rw [map_fst_numbered] at hnumber
  exact List.mem_range.mp hnumber

theorem nodup_numbered (sections : Vector (Option α) n) :
    ((numbered sections).map Prod.fst).Nodup := by
  rw [map_fst_numbered]
  exact List.nodup_range

theorem pairwise_numbered (sections : Vector (Option α) n) :
    (numbered sections).Pairwise fun a b ↦ a.1 < b.1 := by
  rw [← List.pairwise_map (f := Prod.fst), map_fst_numbered]
  exact List.pairwise_lt_range

theorem lookup_numbered (sections : Vector (Option α) n) (number : Nat) :
    (numbered sections).lookup number = sections[number]? := by
  have hlist (entries : List (Option α)) (start number : Nat) :
      ((entries.zipIdx start).map Prod.swap).lookup (start + number) = entries[number]? := by
    induction entries generalizing start number with
    | nil => rfl
    | cons entry entries ih =>
      rw [List.zipIdx_cons, List.map_cons, Prod.swap_prod_mk, List.lookup_cons]
      cases number with
      | zero => simp
      | succ number =>
        have hne : (start + (number + 1) == start) = false := by simp
        have hrest := ih (start + 1) number
        rw [Nat.add_assoc, Nat.add_comm 1 number] at hrest
        rw [hne, List.getElem?_cons_succ]
        exact hrest
  rw [numbered, ← Vector.getElem?_toList, ← hlist sections.toList 0, Nat.zero_add]

theorem mem_numbered {sections : Vector (Option α) n} {number : Nat} {entry : Option α} :
    (number, entry) ∈ numbered sections ↔ sections[number]? = some entry := by
  rw [numbered, List.mem_map, ← Vector.getElem?_toList]
  constructor
  · rintro ⟨⟨entry', number'⟩, hmem, heq⟩
    cases heq
    exact List.mem_zipIdx_iff_getElem?.mp hmem
  · exact fun h ↦ ⟨(entry, number), List.mem_zipIdx_iff_getElem?.mpr h, rfl⟩

theorem lookup_eq_none {entries : List (Nat × Option α)} {number : Nat}
    (h : number ∉ entries.map Prod.fst) : entries.lookup number = none := by
  rw [List.lookup_eq_none_iff]
  intro entry hentry
  refine bne_iff_ne.mpr fun heq ↦ h ?_
  rw [heq]
  exact List.mem_map_of_mem hentry

theorem lookup_cons_of_ne {key number : Nat} (h : number ≠ key) (entry : Option α)
    (entries : List (Nat × Option α)) :
    ((key, entry) :: entries).lookup number = entries.lookup number := by
  rw [List.lookup_cons, beq_false_of_ne h]

end Numbered

/-! ### What is asked for -/

/-- The motor that the section of an axis has for a slot. -/
def AxisSettings.motor? (settings : AxisSettings) (slot : Nat) : Option MotorSettings :=
  settings.motors[slot]?.join

/-- The motor that the settings have for a place. -/
def AxesSettings.motor? (settings : AxesSettings) (place : Place) : Option MotorSettings :=
  (settings.axis? place.axis).bind fun axis ↦ axis.motor? place.slot

/-- The motors of one axis, by place. -/
def motorRequests (index : Nat) (motors : List (Nat × Option MotorSettings)) :
    List (Place × MotorSettings) :=
  motors.filterMap fun entry ↦ entry.2.map (⟨index, entry.1⟩, ·)

/-- The motors of axes, by place. -/
def axisRequests (sections : List (Nat × Option AxisSettings)) : List (Place × MotorSettings) :=
  sections.flatMap fun entry ↦ entry.2.elim [] fun settings ↦
    motorRequests entry.1 (numbered settings.motors)

/-- The motors of a machine, by place, in the order of axes and slots. -/
def AxesSettings.requests (settings : AxesSettings) : List (Place × MotorSettings) :=
  axisRequests (numbered settings.axes)

theorem motorRequests_cons (index slot : Nat) (motor : MotorSettings)
    (rest : List (Nat × Option MotorSettings)) :
    motorRequests index ((slot, some motor) :: rest) =
      (⟨index, slot⟩, motor) :: motorRequests index rest := rfl

theorem axisRequests_cons (index : Nat) (settings : AxisSettings)
    (rest : List (Nat × Option AxisSettings)) :
    axisRequests ((index, some settings) :: rest) =
      motorRequests index (numbered settings.motors) ++ axisRequests rest := rfl

theorem axis_of_mem_motorRequests {index : Nat} {motors : List (Nat × Option MotorSettings)}
    {place : Place} (h : place ∈ (motorRequests index motors).map Prod.fst) :
    place.axis = index := by
  obtain ⟨request, hrequest, rfl⟩ := List.mem_map.mp h
  obtain ⟨entry, -, hentry⟩ := List.mem_filterMap.mp hrequest
  obtain ⟨settings, -, rfl⟩ := Option.map_eq_some_iff.mp hentry
  rfl

theorem mem_motorRequests_iff {index : Nat} {settings : AxisSettings} {place : Place}
    {motor : MotorSettings} :
    (place, motor) ∈ motorRequests index (numbered settings.motors) ↔
      place.axis = index ∧ settings.motor? place.slot = some motor := by
  rw [motorRequests, List.mem_filterMap, AxisSettings.motor?, Option.join_eq_some_iff,
    ← mem_numbered]
  constructor
  · rintro ⟨⟨slot, entry⟩, hentry, hrequest⟩
    obtain ⟨motor', rfl, heq⟩ := Option.map_eq_some_iff.mp hrequest
    cases heq
    exact ⟨rfl, hentry⟩
  · rintro ⟨rfl, hentry⟩
    exact ⟨(place.slot, some motor), hentry, rfl⟩

theorem mem_motorRequests {index slot : Nat} {settings : AxisSettings} {motor : MotorSettings}
    (h : settings.motor? slot = some motor) :
    ⟨index, slot⟩ ∈ (motorRequests index (numbered settings.motors)).map Prod.fst :=
  List.mem_map_of_mem (f := Prod.fst) (mem_motorRequests_iff.mpr ⟨rfl, h⟩)

/-- What is asked for are the motors that the settings have, each at its place. -/
theorem AxesSettings.mem_requests_iff {settings : AxesSettings} {place : Place}
    {motor : MotorSettings} :
    (place, motor) ∈ settings.requests ↔ settings.motor? place = some motor := by
  rw [requests, axisRequests, List.mem_flatMap, motor?, Option.bind_eq_some_iff]
  constructor
  · rintro ⟨⟨index, entry⟩, hentry, hrequest⟩
    cases entry with
    | none => cases hrequest
    | some axis =>
      obtain ⟨rfl, hmotor⟩ := mem_motorRequests_iff.mp hrequest
      exact ⟨axis, Option.join_eq_some_iff.mpr (mem_numbered.mp hentry), hmotor⟩
  · rintro ⟨axis, haxis, hmotor⟩
    exact ⟨(place.axis, some axis), mem_numbered.mpr (Option.join_eq_some_iff.mp haxis),
      mem_motorRequests_iff.mpr ⟨rfl, hmotor⟩⟩

/-- Every motor of the settings is asked for. -/
theorem AxesSettings.mem_requests {settings : AxesSettings} {place : Place} {motor : MotorSettings}
    (h : settings.motor? place = some motor) : place ∈ settings.requests.map Prod.fst :=
  List.mem_map_of_mem (f := Prod.fst) (mem_requests_iff.mpr h)

/-- The motors of an axis are asked for in the order of slots. -/
theorem pairwise_motorRequests (index : Nat) (settings : AxisSettings) :
    ((motorRequests index (numbered settings.motors)).map Prod.fst).Pairwise Place.Before := by
  rw [List.pairwise_map, motorRequests]
  refine List.Pairwise.filterMap _ (fun a b hlt request hrequest request' hrequest' ↦ ?_)
    (pairwise_numbered settings.motors)
  obtain ⟨-, -, rfl⟩ := Option.map_eq_some_iff.mp hrequest
  obtain ⟨-, -, rfl⟩ := Option.map_eq_some_iff.mp hrequest'
  exact .inr ⟨rfl, hlt⟩

/-- Motors are asked for in the order of axes and slots. -/
theorem AxesSettings.pairwise_requests (settings : AxesSettings) :
    (settings.requests.map Prod.fst).Pairwise Place.Before := by
  have haxis {entry : Nat × Option AxisSettings} {place : Place}
      (h : place ∈ (entry.2.elim [] fun settings ↦
        motorRequests entry.1 (numbered settings.motors)).map Prod.fst) : place.axis = entry.1 := by
    obtain ⟨index, _ | axis⟩ := entry
    · cases h
    · exact axis_of_mem_motorRequests h
  rw [requests, axisRequests, List.map_flatMap]
  refine List.pairwise_flatMap.mpr ⟨fun entry _ ↦ ?_,
    (pairwise_numbered settings.axes).imp fun hlt place hplace other hother ↦ .inl ?_⟩
  · cases entry.2 with
    | none => exact .nil
    | some axis => exact pairwise_motorRequests entry.1 axis
  · rw [haxis hplace, haxis hother]
    exact hlt

/-! ### What is given -/

/-- The drivers that a source gives when it is asked for motors one after the other, by place, and
the state in which that leaves it. -/
def DriverSource.deal (source : DriverSource σ D) :
    List (Place × MotorSettings) → σ → (Place → Option D) × σ
  | [], supply => (fun _ ↦ none, supply)
  | (place, settings) :: rest, supply =>
    let given := source supply place settings
    let dealt := deal source rest given.2
    (fun other ↦ if other = place then given.1 else dealt.1 other, dealt.2)

theorem DriverSource.deal_cons {source : DriverSource σ D} {place : Place}
    {settings : MotorSettings} {supply supply' : σ} {given : Option D}
    (h : source supply place settings = (given, supply')) (rest : List (Place × MotorSettings)) :
    (∀ other, (source.deal ((place, settings) :: rest) supply).1 other =
        if other = place then given else (source.deal rest supply').1 other) ∧
      (source.deal ((place, settings) :: rest) supply).2 = (source.deal rest supply').2 := by
  rw [deal, h]
  exact ⟨fun _ ↦ rfl, rfl⟩

theorem DriverSource.deal_append (source : DriverSource σ D)
    (first second : List (Place × MotorSettings)) (supply : σ) :
    (∀ place, (source.deal (first ++ second) supply).1 place =
        if place ∈ first.map Prod.fst then (source.deal first supply).1 place
        else (source.deal second (source.deal first supply).2).1 place) ∧
      (source.deal (first ++ second) supply).2 =
        (source.deal second (source.deal first supply).2).2 := by
  induction first generalizing supply with
  | nil => exact ⟨fun _ ↦ rfl, rfl⟩
  | cons request first ih =>
    obtain ⟨place, settings⟩ := request
    obtain ⟨hgiven, hsupply⟩ := ih (source supply place settings).2
    refine ⟨fun other ↦ ?_, hsupply⟩
    rw [List.cons_append, (deal_cons rfl _).1, hgiven, (deal_cons rfl _).1, List.map_cons]
    by_cases hother : other = place
    · simp [hother]
    · simp only [hother, if_false, List.mem_cons, false_or]
      rfl

/-- The axis of a section, with the motors of the section for which there are drivers. -/
def Axis.ofSection (index : Nat) (settings : AxisSettings) (drivers : Nat → Option D) : Axis D :=
  { (ofSettings index settings : Axis D) with
    motors := settings.motors.mapIdx fun slot motor ↦
      motor.bind fun motor ↦ (drivers slot).map (Motor.ofSettings · motor) }

theorem Axis.motor?_ofSection (index : Nat) (settings : AxisSettings) (drivers : Nat → Option D)
    (slot : Nat) :
    (ofSection index settings drivers).motor? slot =
      (settings.motor? slot).bind fun motor ↦ (drivers slot).map (Motor.ofSettings · motor) := by
  rw [motor?, ofSection, Vector.getElem?_mapIdx, AxisSettings.motor?]
  cases settings.motors[slot]? <;> rfl

@[simp] theorem Axis.motor?_ofSettings (index : Nat) (settings : AxisSettings) (slot : Nat) :
    (ofSettings index settings : Axis D).motor? slot = none := by
  rw [motor?, ofSettings, Vector.getElem?_replicate]
  split <;> rfl

/-- Only the drivers for the motors of the section matter. -/
theorem Axis.ofSection_congr {index : Nat} {settings : AxisSettings}
    {drivers drivers' : Nat → Option D}
    (h : ∀ slot motor, settings.motor? slot = some motor → drivers slot = drivers' slot) :
    ofSection index settings drivers = ofSection index settings drivers' := by
  refine ext_motor? (fun slot ↦ ?_) rfl
  rw [motor?_ofSection, motor?_ofSection]
  cases hmotor : settings.motor? slot with
  | none => rfl
  | some motor => rw [h slot motor hmotor]

/-- Putting a motor into a slot changes that slot alone. -/
theorem Axis.withMotor_ok {axis after : Axis D} {slot : Nat} {motor : Motor D}
    (h : axis.withMotor slot motor = .ok after) :
    after.bare = axis.bare ∧
      ∀ other, after.motor? other = if other = slot then some motor else axis.motor? other := by
  unfold withMotor at h
  split at h
  next hfits =>
    cases h
    refine ⟨rfl, fun other ↦ ?_⟩
    by_cases hother : other = slot
    · subst hother
      rw [if_pos rfl, motor?, Vector.getElem?_set_self hfits, Option.join_some]
    · rw [if_neg hother, motor?, Vector.getElem?_set_ne hfits (Ne.symm hother), motor?]
  next => cases h

namespace Builder

/-! ### One axis -/

/-- Mounting motors leaves the axis as it is, but for its motors, and gives each slot the motor that
is listed for it, with the driver that the source gives. -/
theorem mountMotors_ok {source : DriverSource σ D} {motors : List (Nat × Option MotorSettings)}
    {axis mounted : Axis D} {supply : σ} (slots : (motors.map Prod.fst).Nodup)
    (h : (mountMotors source motors axis supply).answer = .ok mounted) :
    (mountMotors source motors axis supply).state =
        (source.deal (motorRequests axis.index motors) supply).2 ∧
      mounted.bare = axis.bare ∧
      ∀ slot, mounted.motor? slot = (motors.lookup slot).join.elim (axis.motor? slot) fun motor ↦
        ((source.deal (motorRequests axis.index motors) supply).1 ⟨axis.index, slot⟩).map
          (Motor.ofSettings · motor) := by
  -- No slot is listed twice, so a motor that is mounted stays when the rest is mounted.
  induction motors, axis, supply using mountMotors.induct_unfolding source with
  | case1 axis supply =>
    cases h
    exact ⟨rfl, rfl, fun slot ↦ rfl⟩
  | case2 number rest axis supply ih =>
    obtain ⟨hnumber, hrest⟩ := List.nodup_cons.mp slots
    obtain ⟨hstate, hbare, hmotors⟩ := ih hrest h
    refine ⟨hstate, hbare, fun slot ↦ ?_⟩
    rw [hmotors slot]
    by_cases hslot : slot = number
    · subst hslot
      simp [lookup_eq_none hnumber]
    · rw [lookup_cons_of_ne hslot]
      rfl
  | case3 number settings rest axis supply place supply' hgiven => cases h
  | case4 number settings rest axis supply place driver supply' hgiven fault hfault => cases h
  | case5 number settings rest axis supply place driver supply' hgiven axis' hmount mounted' ih =>
    obtain ⟨hnumber, hrest⟩ := List.nodup_cons.mp slots
    obtain ⟨hbare', hmotors'⟩ := Axis.withMotor_ok hmount
    have hindex : axis'.index = axis.index := congrArg (·.index) hbare'
    obtain ⟨hstate, hbare, hmotors⟩ := ih hrest h
    obtain ⟨hdriver, hsupply⟩ := DriverSource.deal_cons hgiven (motorRequests axis.index rest)
    rw [hindex] at hstate hmotors
    rw [motorRequests_cons]
    refine ⟨hstate.trans hsupply.symm, hbare.trans hbare', fun slot ↦ ?_⟩
    rw [hmotors slot, hmotors' slot, hdriver]
    by_cases hslot : slot = number
    · subst hslot
      simp [lookup_eq_none hnumber, place]
    · have hplace : (⟨axis.index, slot⟩ : Place) ≠ place := fun h ↦ hslot (congrArg Place.slot h)
      rw [lookup_cons_of_ne hslot, if_neg hslot, if_neg hplace]

/-- The axis of a section has the motors of that section. -/
theorem mountMotors_ofSettings {source : DriverSource σ D} {index : Nat} {settings : AxisSettings}
    {mounted : Axis D} {supply : σ}
    (h : (mountMotors source (numbered settings.motors) (.ofSettings index settings)
      supply).answer = .ok mounted) :
    (mountMotors source (numbered settings.motors) (.ofSettings index settings) supply).state =
        (source.deal (motorRequests index (numbered settings.motors)) supply).2 ∧
      mounted = .ofSection index settings fun slot ↦
        (source.deal (motorRequests index (numbered settings.motors)) supply).1 ⟨index, slot⟩ := by
  obtain ⟨hstate, hbare, hmotors⟩ := mountMotors_ok (nodup_numbered settings.motors) h
  refine ⟨hstate, Axis.ext_motor? (fun slot ↦ ?_) hbare⟩
  rw [hmotors slot, lookup_numbered, Axis.motor?_ofSection, AxisSettings.motor?]
  cases settings.motors[slot]?.join with
  | none => exact Axis.motor?_ofSettings index settings slot
  | some motor => rfl

/-! ### All axes -/

/-- Adding axes leaves the builder as it is, but for the axes, and puts at each index the axis of
the section that is listed for it. -/
theorem addAxes_ok {source : DriverSource σ D} {sections : List (Nat × Option AxisSettings)}
    {builder after : Builder D} {supply : σ} (indices : (sections.map Prod.fst).Nodup)
    (h : (addAxes source sections builder supply).answer = .ok after) :
    after = { builder with axes := after.axes } ∧
      ∀ index, after.axes[index]? =
        (sections.lookup index).join.elim builder.axes[index]? fun settings ↦
          some (some (.ofSection index settings fun slot ↦
            (source.deal (axisRequests sections) supply).1 ⟨index, slot⟩)) := by
  induction sections, builder, supply using addAxes.induct_unfolding source with
  | case1 builder supply =>
    cases h
    exact ⟨rfl, fun index ↦ rfl⟩
  | case2 number rest builder supply ih =>
    obtain ⟨hnumber, hrest⟩ := List.nodup_cons.mp indices
    obtain ⟨hafter, haxes⟩ := ih hrest h
    refine ⟨hafter, fun index ↦ ?_⟩
    rw [haxes index]
    by_cases hindex : index = number
    · subst hindex
      simp [lookup_eq_none hnumber]
    · rw [lookup_cons_of_ne hindex]
      rfl
  | case3 number settings rest builder supply motors mounted fault hfault => cases h
  | case4 number settings rest builder supply motors mounted axis haxis fault hfault => cases h
  | case5 number settings rest builder supply motors mounted axis haxis builder' hadd added ih =>
    obtain ⟨hnumber, hrest⟩ := List.nodup_cons.mp indices
    obtain ⟨hafter, haxes⟩ := ih hrest h
    obtain ⟨hbuilder', haxes'⟩ := addAxis_ok hadd
    -- The source deals the drivers of this axis first, and those of the rest are for other axes.
    obtain ⟨hstate, haxis⟩ := mountMotors_ofSettings haxis
    obtain ⟨hdriver, -⟩ := source.deal_append (motorRequests number (numbered settings.motors))
      (axisRequests rest) supply
    refine ⟨?_, fun index ↦ ?_⟩
    · rw [hbuilder'] at hafter
      exact hafter
    simp only [axisRequests_cons, hdriver]
    rw [haxes index, haxes' index]
    have hnumber' : axis.index = number := haxis ▸ rfl
    by_cases hindex : index = number
    · subst hindex
      rw [lookup_eq_none hnumber, if_pos hnumber'.symm, haxis, List.lookup_cons_self]
      refine congrArg (fun axis ↦ some (some axis)) ?_
      exact Axis.ofSection_congr fun slot motor hmotor ↦ (if_pos (mem_motorRequests hmotor)).symm
    · rw [lookup_cons_of_ne hindex, if_neg (hnumber' ▸ hindex)]
      have hplace (slot : Nat) : ⟨index, slot⟩ ∉
          (motorRequests number (numbered settings.motors)).map Prod.fst :=
        fun h ↦ hindex (axis_of_mem_motorRequests h)
      simp only [hplace, if_false, ← hstate]
      rfl

/-- The axis that the settings place at an index, with drivers from the source. -/
def configured? (settings : MachineSettings) (source : DriverSource σ D) (supply : σ)
    (index : Nat) : Option (Axis D) :=
  (settings.axes.axis? index).map fun axis ↦ .ofSection index axis fun slot ↦
    (source.deal settings.axes.requests supply).1 ⟨index, slot⟩

/-- Taking over the settings of a machine puts the axis of each section at its index, sets the
homing runs and the delay, and leaves everything else as it is. -/
theorem addSettings_ok {builder after : Builder D} {settings : MachineSettings}
    {source : DriverSource σ D} {supply : σ}
    (h : (builder.addSettings settings source supply).answer = .ok after) :
    after =
        { builder.withHomingRuns settings.axes.homingRuns.toNat with
          axes := after.axes
          disableDelay := settings.stepping.disableDelay.toNat } ∧
      ∀ index, after.axes[index]? =
        (configured? settings source supply index).elim builder.axes[index]? fun axis ↦
          some (some axis) := by
  obtain ⟨hafter, haxes⟩ := addAxes_ok (nodup_numbered settings.axes.axes) h
  refine ⟨hafter, fun index ↦ ?_⟩
  rw [haxes index, lookup_numbered, configured?, AxesSettings.axis?]
  cases settings.axes.axes[index]?.join <;> rfl

end Builder

end MotionControl
