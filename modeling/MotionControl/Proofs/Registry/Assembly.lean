import MotionControl.Proofs.Registry.BringUp
import MotionControl.Registry.Builder

/-!
# Registries that were built

A registry that is up was assembled by a builder and brought up (`Registry.Built`), and a builder
got where it is by a list of calls that did not fail (`Builder.Assembled`). What is true of every
axis table is an invariant of these calls: an axis stands at its own index, and there are at least
three axes and at most six. Taking over the settings of a machine is only a list of such calls
(`Builder.Assembled.addSettings`).
-/

set_option autoImplicit false
set_option relaxedAutoImplicit false

namespace MotionControl

variable {D : Type}

namespace Builder

/-- A builder after calls that did not fail. -/
inductive Assembled : Builder D → Prop
  | empty : Assembled {}
  | addAxis {builder after : Builder D} (axis : Axis D) : Assembled builder →
    builder.addAxis axis = .ok after → Assembled after
  | homingRuns {builder : Builder D} (runs : Nat) : Assembled builder →
    Assembled (builder.withHomingRuns runs)
  | disableDelay {builder : Builder D} (delay : Nat) : Assembled builder →
    Assembled { builder with disableDelay := delay }
  | disableLine {builder : Builder D} (line : Option SharedLine) : Assembled builder →
    Assembled { builder with disableLine := line }
  | resetLine {builder : Builder D} (line : Option SharedLine) : Assembled builder →
    Assembled { builder with resetLine := line }

theorem Assembled.addAxes {σ : Type} {source : DriverSource σ D}
    {sections : List (Nat × Option AxisSettings)} {builder after : Builder D} {supply : σ}
    (assembled : Assembled builder)
    (added : (addAxes source sections builder supply).answer = .ok after) : Assembled after := by
  induction sections, builder, supply using addAxes.induct_unfolding source with
  | case1 builder supply =>
    cases added
    exact assembled
  | case2 index rest builder supply ih => exact ih assembled added
  | case3 index settings rest builder supply motors mounted fault hfault => cases added
  | case4 index settings rest builder supply motors mounted axis haxis fault hfault => cases added
  | case5 index settings rest builder supply motors mounted axis haxis after' hadd added' ih =>
    exact ih (assembled.addAxis axis hadd) added

/-- Taking over the settings of a machine adds axes and sets what they share. -/
theorem Assembled.addSettings {σ : Type} {source : DriverSource σ D} {settings : MachineSettings}
    {builder after : Builder D} {supply : σ} (assembled : Assembled builder)
    (added : (builder.addSettings settings source supply).answer = .ok after) :
    Assembled after :=
  ((assembled.homingRuns _).disableDelay _).addAxes added

/-- Adding an axis changes its index alone. -/
theorem addAxis_ok {builder after : Builder D} {axis : Axis D}
    (h : builder.addAxis axis = .ok after) :
    after = { builder with axes := after.axes } ∧
      ∀ index, after.axes[index]? =
        if index = axis.index then some (some axis) else builder.axes[index]? := by
  unfold addAxis at h
  split at h
  next hfits =>
    cases h
    refine ⟨rfl, fun index ↦ ?_⟩
    by_cases hindex : index = axis.index
    · subst hindex
      rw [if_pos rfl, Vector.getElem?_set_self hfits]
    · rw [if_neg hindex, Vector.getElem?_set_ne hfits (Ne.symm hindex)]
  next => cases h

/-- Every axis that was added stands at its index. -/
def InPlace (builder : Builder D) : Prop :=
  ∀ (index : Nat) (axis : Axis D), builder.axes[index]? = some (some axis) → axis.index = index

theorem InPlace.addAxis {builder after : Builder D} (inPlace : builder.InPlace) {added : Axis D}
    (h : builder.addAxis added = .ok after) : after.InPlace := by
  intro index axis hindex
  rw [(addAxis_ok h).2 index] at hindex
  split at hindex
  next heq =>
    cases hindex
    exact heq.symm
  next => exact inPlace index axis hindex

theorem Assembled.inPlace {builder : Builder D} (assembled : Assembled builder) :
    builder.InPlace := by
  induction assembled with
  | empty =>
    intro index axis hindex
    simp [Vector.getElem?_replicate] at hindex
  | addAxis axis _ hadd ih => exact ih.addAxis hadd
  | homingRuns _ _ ih => exact ih
  | disableDelay _ _ ih => exact ih
  | disableLine _ _ ih => exact ih
  | resetLine _ _ ih => exact ih

/-! ### How many axes there are -/

theorem minAxes_le_axisCount (builder : Builder D) : minAxes ≤ builder.axisCount :=
  Nat.le_max_left ..

theorem axisCount_le_maxAxes (builder : Builder D) : builder.axisCount ≤ maxAxes := by
  refine Nat.max_le.mpr ⟨by decide, ?_⟩
  cases hlast : (builder.axes.toList.zipIdx.filter fun entry ↦ entry.1.isSome).getLast? with
  | none => exact Nat.zero_le _
  | some entry =>
    have hmem := (List.mem_filter.mp (List.mem_of_getLast? hlast)).1
    have hlt := List.snd_lt_of_mem_zipIdx hmem
    rw [Vector.length_toList, Nat.add_zero] at hlt
    exact hlt

theorem length_finish (builder : Builder D) :
    builder.finish.axes.length = builder.axisCount := by
  rw [finish, List.length_map, List.length_zipIdx, List.length_take, Vector.length_toList]
  exact Nat.min_eq_left builder.axisCount_le_maxAxes

end Builder

namespace Registry

variable {stage : Stage}

theorem InPlace.finish {builder : Builder D} (inPlace : builder.InPlace) :
    builder.finish.InPlace := by
  intro index axis hindex
  rw [axis?, Builder.finish, List.getElem?_map] at hindex
  obtain ⟨entry, hentry, rfl⟩ := Option.map_eq_some_iff.mp hindex
  rw [List.getElem?_zipIdx] at hentry
  obtain ⟨added, hadded, rfl⟩ := Option.map_eq_some_iff.mp hentry
  cases added with
  | none => exact Nat.zero_add index
  | some axis =>
    refine inPlace index axis ?_
    rw [List.getElem?_take] at hadded
    split at hadded
    · rw [← hadded, Vector.getElem?_toList]
    · cases hadded

theorem InPlace.mapDrivers {registry : Registry stage D} (inPlace : registry.InPlace)
    (change : D → D) : (registry.mapDrivers change).InPlace := by
  intro index axis hindex
  rw [axis?, Registry.mapDrivers, List.getElem?_map] at hindex
  obtain ⟨before, hbefore, rfl⟩ := Option.map_eq_some_iff.mp hindex
  exact inPlace index before hbefore

variable [MotorDriver D]

/-- Whether a registry that is up was built. -/
def Built (registry : Registry .ready D) : Prop :=
  ∃ builder : Builder D, builder.Assembled ∧ builder.finish.bringUp.1 = .ok registry

theorem Built.length_axes {registry : Registry .ready D} (built : registry.Built) :
    minAxes ≤ registry.axes.length ∧ registry.axes.length ≤ maxAxes := by
  obtain ⟨builder, -, hup⟩ := built
  have hlength : registry.axes.length = builder.axisCount := by
    rw [bringUp_eq_ok hup]
    simp [atStage, Registry.mapDrivers, builder.length_finish]
  rw [hlength]
  exact ⟨builder.minAxes_le_axisCount, builder.axisCount_le_maxAxes⟩

theorem Built.inPlace {registry : Registry .ready D} (built : registry.Built) :
    registry.InPlace := by
  obtain ⟨builder, hassembled, hup⟩ := built
  rw [bringUp_eq_ok hup]
  exact ((InPlace.finish hassembled.inPlace).mapDrivers _).mapDrivers _

end Registry

end MotionControl
