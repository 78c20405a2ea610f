import MotionControl.Proofs.History
import MotionControl.Proofs.Registry.Assembly
import MotionControl.Proofs.Registry.Sections

/-!
# The axis table

A registry is assembled from a list of calls of a builder (`BuilderCall`), each of which places at
most one axis at an index (`BuilderCall.placed?`). What the calls come to is a table without gaps:
it ends with the highest index at which an axis was placed, or with the third axis, each index has
the axis that was placed there last, and an index at which none was placed has an axis without
motors (`Builder.finish_tabulates`).
-/

set_option autoImplicit false
set_option relaxedAutoImplicit false

namespace MotionControl

variable {D : Type}

/-- A call of a builder. Each call that takes over settings brings a source of its own. -/
inductive BuilderCall (D : Type) : Type 1
  | axis (axis : Axis D)
  | homingRuns (runs : Nat)
  | disableDelay (delay : Nat)
  | disableLine (line : SharedLine)
  | resetLine (line : SharedLine)
  | settings {σ : Type} (settings : MachineSettings) (source : DriverSource σ D) (supply : σ)

namespace BuilderCall

def perform (builder : Builder D) : BuilderCall D → Except Fault (Builder D)
  | axis added => (builder.addAxis added).mapError Fault.axis
  | homingRuns runs => .ok (builder.withHomingRuns runs)
  | disableDelay delay => .ok { builder with disableDelay := delay }
  | disableLine line => .ok { builder with disableLine := some line }
  | resetLine line => .ok { builder with resetLine := some line }
  | settings machine source supply => (builder.addSettings machine source supply).answer

/-- The builder that a list of calls comes to, if none of them fails. -/
def performAll (calls : List (BuilderCall D)) : Except Fault (Builder D) :=
  calls.foldlM perform {}

/-! ### What is placed -/

/-- The axis that a call places at an index. -/
def placed? : BuilderCall D → Nat → Option (Axis D)
  | axis added, index => if index = added.index then some added else none
  | settings machine source supply, index => Builder.configured? machine source supply index
  | _, _ => none

/-- The axis that was placed last at an index. -/
def lastPlaced? (calls : List (BuilderCall D)) (index : Nat) : Option (Axis D) :=
  latest? (· index) (calls.map placed?)

/-- The indices at which a call places an axis. -/
def indices : BuilderCall D → List Nat
  | axis added => [added.index]
  | settings machine _ _ =>
    (List.range maxAxes).filter fun index ↦ (machine.axes.axis? index).isSome
  | _ => []

/-- The highest index at which an axis was ever placed. -/
def highest? (calls : List (BuilderCall D)) : Option Nat := (calls.flatMap indices).max?

theorem mem_indices {call : BuilderCall D} {index : Nat} :
    index ∈ call.indices ↔ (call.placed? index).isSome = true := by
  cases call with
  | axis added => simp [indices, placed?]
  | settings machine source supply =>
    have hbound (h : (machine.axes.axis? index).isSome = true) : index < maxAxes := by
      refine Nat.lt_of_not_le fun hle ↦ ?_
      rw [AxesSettings.axis?, Vector.getElem?_eq_none hle] at h
      cases h
    simpa [indices, placed?, Builder.configured?] using hbound
  | _ => simp [indices, placed?]

theorem lastPlaced?_cons (call : BuilderCall D) (calls : List (BuilderCall D)) (index : Nat) :
    lastPlaced? (call :: calls) index = (lastPlaced? calls index).or (call.placed? index) :=
  latest?_cons _ call.placed? (calls.map placed?)

theorem isSome_lastPlaced? {calls : List (BuilderCall D)} {index : Nat} :
    (lastPlaced? calls index).isSome = true ↔ index ∈ calls.flatMap indices := by
  induction calls with
  | nil => simp [lastPlaced?]
  | cons call calls ih =>
    rw [lastPlaced?_cons, Option.isSome_or, Bool.or_eq_true, ih, ← mem_indices, List.flatMap_cons,
      List.mem_append, or_comm]

/-! ### What the calls come to -/

theorem addAxis_of_perform {added : Axis D} {builder after : Builder D}
    (h : (axis added).perform builder = .ok after) : builder.addAxis added = .ok after := by
  rw [perform] at h
  cases hadd : builder.addAxis added with
  | error fault =>
    rw [hadd] at h
    cases h
  | ok builder' =>
    rw [hadd] at h
    cases h
    rfl

/-- A call puts at each index the axis that it places there, and keeps all other axes. -/
theorem axes_of_perform {call : BuilderCall D} {builder after : Builder D}
    (h : call.perform builder = .ok after) (index : Nat) :
    after.axes[index]? = (call.placed? index).elim builder.axes[index]? fun axis ↦
      some (some axis) := by
  cases call with
  | axis added =>
    rw [(Builder.addAxis_ok (addAxis_of_perform h)).2 index, placed?]
    split <;> rfl
  | settings machine source supply => exact (Builder.addSettings_ok h).2 index
  | _ =>
    cases h
    rfl

/-- A call that does not fail is one or more of the steps by which builders are assembled. -/
theorem assembled_of_perform {call : BuilderCall D} {builder after : Builder D}
    (assembled : builder.Assembled) (h : call.perform builder = .ok after) : after.Assembled := by
  cases call with
  | axis added => exact assembled.addAxis added (addAxis_of_perform h)
  | settings machine source supply => exact assembled.addSettings h
  | homingRuns runs =>
    cases h
    exact assembled.homingRuns runs
  | disableDelay delay =>
    cases h
    exact assembled.disableDelay delay
  | disableLine line =>
    cases h
    exact assembled.disableLine (some line)
  | resetLine line =>
    cases h
    exact assembled.resetLine (some line)

/-- After all calls, each index has the axis that was placed there last. -/
theorem axes_of_foldlM {calls : List (BuilderCall D)} {builder after : Builder D}
    (assembled : builder.Assembled) (h : calls.foldlM perform builder = .ok after) :
    after.Assembled ∧ ∀ index, after.axes[index]? =
      (lastPlaced? calls index).elim builder.axes[index]? fun axis ↦ some (some axis) := by
  induction calls generalizing builder with
  | nil =>
    cases h
    exact ⟨assembled, fun index ↦ rfl⟩
  | cons call calls ih =>
    rw [List.foldlM_cons] at h
    cases hcall : call.perform builder with
    | error fault =>
      rw [hcall] at h
      cases h
    | ok next =>
      rw [hcall] at h
      obtain ⟨hafter, haxes⟩ := ih (assembled_of_perform assembled hcall) h
      refine ⟨hafter, fun index ↦ ?_⟩
      rw [haxes index, lastPlaced?_cons, axes_of_perform hcall]
      cases lastPlaced? calls index <;> rfl

end BuilderCall

/-! ### The table -/

/-- The last of ascending numbers is the highest. -/
theorem getLast?_eq_max? {ascending numbers : List Nat} (h : ascending.Pairwise (· < ·))
    (mem : ∀ number, number ∈ ascending ↔ number ∈ numbers) :
    ascending.getLast? = numbers.max? := by
  cases hmax : numbers.max? with
  | none =>
    rw [List.max?_eq_none_iff] at hmax
    subst hmax
    rw [List.getLast?_eq_none_iff, List.eq_nil_iff_forall_not_mem]
    exact fun number hnumber ↦ List.not_mem_nil ((mem number).mp hnumber)
  | some highest =>
    obtain ⟨hhighest, hle⟩ := List.max?_eq_some_iff.mp hmax
    cases hlast : ascending.getLast? with
    | none =>
      rw [List.getLast?_eq_none_iff] at hlast
      rw [← mem, hlast] at hhighest
      cases hhighest
    | some last =>
      obtain ⟨before, rfl⟩ := List.getLast?_eq_some_iff.mp hlast
      have hbefore := (List.pairwise_append.mp h).2.2
      have hlastLe : last ≤ highest := hle last ((mem last).mp (by simp))
      rcases List.mem_append.mp ((mem highest).mpr hhighest) with hmem | hmem
      · have hlt := hbefore highest hmem last (List.mem_singleton_self last)
        omega
      · rw [List.mem_singleton.mp hmem]

namespace Builder

/-- The homing runs of a builder are in their range. -/
theorem Assembled.homingRuns_range {builder : Builder D} (assembled : builder.Assembled) :
    homingRunsRange.1 ≤ builder.homingRuns ∧ builder.homingRuns ≤ homingRunsRange.2 := by
  induction assembled with
  | empty => exact ⟨Nat.le_add_left .., Nat.le_add_left ..⟩
  | addAxis axis _ hadd ih =>
    rw [(addAxis_ok hadd).1]
    exact ih
  | homingRuns runs _ _ =>
    exact ⟨Nat.le_min.mpr ⟨Nat.le_max_right .., by decide⟩, Nat.min_le_right ..⟩
  | disableDelay _ _ ih => exact ih
  | disableLine _ _ ih => exact ih
  | resetLine _ _ ih => exact ih

/-- A builder has as many axes as it takes to reach the highest index of an axis, and at least the
smallest number. -/
theorem axisCount_eq {builder : Builder D} {indices : List Nat}
    (h : ∀ index, index ∈ indices ↔ ∃ axis, builder.axes[index]? = some (some axis)) :
    builder.axisCount = max minAxes (indices.max?.elim 0 (· + 1)) := by
  let present := builder.axes.toList.zipIdx.filter fun entry ↦ entry.1.isSome
  have hmem (index : Nat) : index ∈ present.map Prod.snd ↔ index ∈ indices := by
    rw [h index]
    simp [present, List.mem_zipIdx_iff_getElem?, Option.isSome_iff_exists]
  -- The table is scanned for its last axis, while the statement has the highest index.
  have hascending : (present.map Prod.snd).Pairwise (· < ·) := by
    have hall : (builder.axes.toList.zipIdx.map Prod.snd).Pairwise (· < ·) := by
      rw [List.zipIdx_map_snd]
      exact List.pairwise_lt_range'
    exact List.pairwise_map.mpr ((List.pairwise_map.mp hall).filter _)
  rw [axisCount, ← getLast?_eq_max? hascending hmem, List.getLast?_map]
  cases present.getLast? <;> rfl

theorem lt_axisCount {builder : Builder D} {index : Nat} {axis : Axis D}
    (h : builder.axes[index]?.join = some axis) : index < builder.axisCount := by
  let indices := (List.range maxAxes).filter fun index ↦ builder.axes[index]?.join.isSome
  have hmem (index : Nat) :
      index ∈ indices ↔ ∃ axis, builder.axes[index]? = some (some axis) := by
    rw [List.mem_filter, List.mem_range, Option.isSome_iff_exists]
    refine ⟨fun ⟨_, axis, haxis⟩ ↦ ⟨axis, Option.join_eq_some_iff.mp haxis⟩, ?_⟩
    rintro ⟨axis, haxis⟩
    obtain ⟨hlt, -⟩ := Vector.getElem?_eq_some_iff.mp haxis
    exact ⟨hlt, axis, Option.join_eq_some_iff.mpr haxis⟩
  have hindex : index ∈ indices := (hmem index).mpr ⟨axis, Option.join_eq_some_iff.mp h⟩
  rw [axisCount_eq hmem]
  cases hmax : indices.max? with
  | none =>
    rw [List.max?_eq_none_iff.mp hmax] at hindex
    cases hindex
  | some highest =>
    have hle : index ≤ highest := (List.max?_eq_some_iff.mp hmax).2 index hindex
    exact (Nat.lt_succ_of_le hle).trans_le (Nat.le_max_right ..)

/-- The axis at an index of the assembled registry. -/
theorem axis?_finish (builder : Builder D) (index : Nat) :
    builder.finish.axis? index =
      if index < builder.axisCount then some (builder.axes[index]?.join.getD (.ofIndex index))
      else none := by
  rw [Registry.axis?, finish, List.getElem?_map, List.getElem?_zipIdx, List.getElem?_take,
    Vector.getElem?_toList]
  split
  next hlt =>
    have hfits : index < maxAxes := hlt.trans_le builder.axisCount_le_maxAxes
    rw [Vector.getElem?_eq_getElem hfits, Nat.zero_add]
    rfl
  next => rfl

/-- The assembled registry has the motors of the axes that were added. -/
theorem motor?_finish (builder : Builder D) (place : Place) :
    builder.finish.motor? place =
      builder.axes[place.axis]?.join.bind fun axis ↦ axis.motor? place.slot := by
  rw [Registry.motor?, axis?_finish]
  cases haxis : builder.axes[place.axis]?.join with
  | none =>
    split
    · exact Axis.motor?_ofSettings place.axis {} place.slot
    · rfl
  | some axis => rw [if_pos (lt_axisCount haxis), Option.getD_some]

/-- A builder to which nothing was added has no axes. -/
theorem join_axes_empty (index : Nat) : ({} : Builder D).axes[index]?.join = none := by
  rw [Vector.getElem?_replicate]
  split <;> rfl

/-- What a registry is that was assembled by a list of calls. -/
structure Tabulates (calls : List (BuilderCall D)) (registry : Registry .parsed D) : Prop where
  count : registry.axes.length = max 3 ((BuilderCall.highest? calls).elim 0 (· + 1))
  bounds : 3 ≤ registry.axes.length ∧ registry.axes.length ≤ 6
  /-- Each index has the axis that was placed there last, or else an axis with the settings that
  hold by default. -/
  axis : ∀ index < registry.axes.length, registry.axis? index =
    some ((BuilderCall.lastPlaced? calls index).getD (.ofIndex index))
  /-- An axis that was not placed has no motors and is not homed. -/
  vacant : ∀ index axis, registry.axis? index = some axis →
    BuilderCall.lastPlaced? calls index = none →
      axis.homing = none ∧ ∀ slot, axis.motor? slot = none
  inPlace : registry.InPlace
  beyond : ∀ index, registry.axes.length ≤ index → registry.axis? index = none
  /-- There are letters for all axes. -/
  letters : registry.letters = axisLetters.take registry.axes.length ∧
    registry.letters.length = registry.axes.length
  homingRuns : 1 ≤ registry.homingRuns ∧ registry.homingRuns ≤ 5

/-- Whatever the calls, the assembled registry is a table without gaps, and an axis beyond the last
possible index is refused. -/
theorem finish_tabulates {calls : List (BuilderCall D)} {builder : Builder D}
    (performed : BuilderCall.performAll calls = .ok builder) :
    Tabulates calls builder.finish ∧
      ∀ axis : Axis D, 6 ≤ axis.index → (BuilderCall.axis axis).perform builder =
        .error (.axis (.axisOutOfRange axis.index)) := by
  obtain ⟨hassembled, haxes⟩ := BuilderCall.axes_of_foldlM .empty performed
  have hindex (index : Nat) :
      builder.axes[index]?.join = BuilderCall.lastPlaced? calls index := by
    rw [haxes index]
    cases BuilderCall.lastPlaced? calls index with
    | none => exact join_axes_empty index
    | some axis => rfl
  have hplaced (index : Nat) : index ∈ calls.flatMap BuilderCall.indices ↔
      ∃ axis, builder.axes[index]? = some (some axis) := by
    rw [← BuilderCall.isSome_lastPlaced?, ← hindex, Option.isSome_iff_exists]
    exact exists_congr fun axis ↦ Option.join_eq_some_iff
  have hlength := builder.length_finish
  have haxis (index : Nat) (h : index < builder.finish.axes.length) :
      builder.finish.axis? index =
        some ((BuilderCall.lastPlaced? calls index).getD (.ofIndex index)) := by
    rw [axis?_finish, if_pos (hlength ▸ h), hindex]
  refine ⟨?_, fun axis haxis ↦ ?_⟩
  · constructor
    case count => exact hlength.trans (axisCount_eq hplaced)
    case bounds => exact hlength ▸ ⟨builder.minAxes_le_axisCount, builder.axisCount_le_maxAxes⟩
    case axis => exact haxis
    case vacant =>
      intro index axis hfound hnone
      rw [haxis index (List.getElem?_eq_some_iff.mp hfound).1, hnone] at hfound
      cases hfound
      exact ⟨rfl, Axis.motor?_ofSettings index {}⟩
    case inPlace => exact Registry.InPlace.finish hassembled.inPlace
    case beyond => exact fun index hle ↦ List.getElem?_eq_none hle
    case letters =>
      refine ⟨rfl, ?_⟩
      rw [Registry.letters, List.length_take, hlength]
      exact Nat.min_eq_left builder.axisCount_le_maxAxes
    case homingRuns => exact hassembled.homingRuns_range
  · rw [BuilderCall.perform, addAxis, dif_neg (Nat.not_lt.mpr haxis)]
    rfl

/-- The fifth axis is placed, then settings place the second one with a secondary motor, and then
the fifth axis is replaced. -/
def mixedCalls : List (BuilderCall Nat) :=
  let second : AxisSettings := { motors := #v[none, some {}] }
  let axes : Vector (Option AxisSettings) maxAxes := #v[none, some second, none, none, none, none]
  [.axis (.ofIndex 4), .homingRuns 9,
    .settings { axes := { homingRuns := 0, axes } } (fun supply _ _ ↦ (some supply, supply + 1)) 7,
    .axis (.withHoming (.ofIndex 4) {})]

theorem finish_tabulates_mixedCalls : ∃ builder,
    BuilderCall.performAll mixedCalls = .ok builder ∧ Tabulates mixedCalls builder.finish ∧
      builder.finish.axes.length = 5 ∧
      builder.finish.motor? ⟨1, 1⟩ = some (.ofSettings 7 {}) ∧
      builder.finish.axis? 4 = some (.withHoming (.ofIndex 4) {}) ∧
      builder.finish.axis? 3 = some (.ofIndex 3) ∧
      builder.finish.homingRuns = 1 ∧
      (BuilderCall.axis (.ofIndex 6)).perform builder = .error (.axis (.axisOutOfRange 6)) := by
  have performed : ∃ builder, BuilderCall.performAll mixedCalls = .ok builder := ⟨_, rfl⟩
  obtain ⟨builder, hbuilder⟩ := performed
  obtain ⟨htabulates, hrefused⟩ := finish_tabulates hbuilder
  refine ⟨builder, hbuilder, htabulates, ?_⟩
  cases hbuilder
  exact ⟨rfl, rfl, rfl, rfl, rfl, hrefused (.ofIndex 6) (by decide)⟩

end Builder

end MotionControl
