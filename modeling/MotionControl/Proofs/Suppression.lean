import Mathlib.Data.Set.Lattice
import Mathlib.Order.CompletePartialOrder
import MotionControl.Proofs.History
import MotionControl.Proofs.Mask.Places
import MotionControl.Suppression

/-!
# What decides whether steps are suppressed

Every operation on the suppressed steps has a scope, the motors that it concerns: it suppresses all
of them or none, and leaves the others alone (`SuppressionOp.isBlocked_perform`). So a motor is
suppressed after any list of operations exactly if the last of them with the motor in its scope
suppresses it, and lists with disjoint scopes come to the same however they are interleaved. A place
without a motor bit is in no scope. A request of steps is granted for the requested motors that are
not suppressed, and for no others (`Suppression.lastWord_stands`).
-/

set_option autoImplicit false
set_option relaxedAutoImplicit false

namespace MotionControl

/-- Two suppressions of the same motors are one. -/
theorem Suppression.ext_isBlocked {a b : Suppression}
    (h : ∀ place, a.isBlocked place = b.isBlocked place) : a = b := by
  cases a
  cases b
  exact congrArg mk (MotorMask.ext_contains h)

/-- An operation on the suppressed steps. -/
inductive SuppressionOp
  | block (place : Place)
  | unblock (place : Place)
  | blockAll (motors : MotorMask)
  | unblockAll
  deriving DecidableEq, Repr

def SuppressionOp.perform : SuppressionOp → Suppression → Suppression
  | block place, suppression => suppression.block place
  | unblock place, suppression => suppression.unblock place
  | blockAll motors, suppression => suppression.blockAll motors
  | unblockAll, _ => .empty

namespace SuppressionOp

/-- The motors that the operation concerns. -/
def scope : SuppressionOp → MotorMask
  | block place | unblock place => .singleton place
  | blockAll motors => motors
  | unblockAll => MotorMask.empty.compl

/-- Whether the operation suppresses the motors in its scope, rather than releasing them. -/
def suppresses : SuppressionOp → Bool
  | block _ | blockAll _ => true
  | unblock _ | unblockAll => false

/-- An operation adds its scope to the suppressed motors, or takes it away. -/
theorem motors_perform (op : SuppressionOp) (suppression : Suppression) :
    (op.perform suppression).motors =
      if op.suppresses then suppression.motors.union op.scope
      else suppression.motors.diff op.scope := by
  cases op with
  | block | unblock | blockAll => rfl
  | unblockAll =>
    refine MotorMask.ext_contains fun place ↦ ?_
    change MotorMask.empty.contains place =
      (suppression.motors.diff MotorMask.empty.compl).contains place
    rw [MotorMask.contains_diff, MotorMask.contains_compl, MotorMask.contains_empty,
      MotorMask.contains]
    cases place.inRange <;> simp

/-- What the operation decides for a place, if it is in its scope. -/
def verdict? (place : Place) (op : SuppressionOp) : Option Bool :=
  if op.scope.contains place then some op.suppresses else none

theorem verdict?_eq_none_iff {place : Place} {op : SuppressionOp} :
    op.verdict? place = none ↔ place ∉ op.scope.places := by
  simp [verdict?, MotorMask.mem_places]

theorem verdict?_eq_some_iff {place : Place} {op : SuppressionOp} {suppressed : Bool} :
    op.verdict? place = some suppressed ↔ place ∈ op.scope.places ∧ op.suppresses = suppressed := by
  simp [verdict?, MotorMask.mem_places]

/-- An operation decides for the motors in its scope, and leaves the others as they are. -/
theorem isBlocked_perform (op : SuppressionOp) (suppression : Suppression) (place : Place) :
    (op.perform suppression).isBlocked place =
      (op.verdict? place).getD (suppression.isBlocked place) := by
  rw [Suppression.isBlocked, motors_perform, verdict?]
  cases hscope : op.scope.contains place <;> cases op.suppresses <;>
    simp [MotorMask.contains_union, MotorMask.contains_diff, Suppression.isBlocked, hscope]

theorem perform_of_scope_eq_empty (op : SuppressionOp) (h : op.scope.places = ∅)
    (suppression : Suppression) : op.perform suppression = suppression := by
  refine Suppression.ext_isBlocked fun place ↦ ?_
  rw [isBlocked_perform, verdict?_eq_none_iff.mpr (h ▸ Set.notMem_empty place)]
  rfl

end SuppressionOp

namespace Suppression

/-- Performs a list of operations in order. -/
def performAll (suppression : Suppression) (ops : List SuppressionOp) : Suppression :=
  ops.foldl (fun suppression op ↦ op.perform suppression) suppression

/-- The last verdict on a place stands. -/
theorem isBlocked_performAll (suppression : Suppression) (ops : List SuppressionOp)
    (place : Place) :
    (suppression.performAll ops).isBlocked place =
      (latest? (SuppressionOp.verdict? place) ops).getD (suppression.isBlocked place) := by
  induction ops generalizing suppression with
  | nil => rfl
  | cons op ops ih =>
    rw [performAll, List.foldl_cons, latest?_cons]
    refine (ih (op.perform suppression)).trans ?_
    rw [SuppressionOp.isBlocked_perform]
    cases latest? (SuppressionOp.verdict? place) ops <;> rfl

/-- The last operation with the place in its scope suppresses it. -/
def LastSuppresses (ops : List SuppressionOp) (place : Place) : Prop :=
  ∃ before op after, ops = before ++ op :: after ∧ place ∈ op.scope.places ∧
    op.suppresses = true ∧ ∀ later ∈ after, place ∉ later.scope.places

theorem lastSuppresses_iff {ops : List SuppressionOp} {place : Place} :
    LastSuppresses ops place ↔ latest? (SuppressionOp.verdict? place) ops = some true := by
  simp only [latest?_eq_some_iff, SuppressionOp.verdict?_eq_some_iff,
    SuppressionOp.verdict?_eq_none_iff, LastSuppresses, and_assoc]

/-- The places that are in the scope of some operation. -/
def touched (ops : List SuppressionOp) : Set Place :=
  {place | ∃ op ∈ ops, place ∈ op.scope.places}

theorem verdict?_eq_none_of_notMem_touched {ops : List SuppressionOp} {place : Place}
    (h : place ∉ touched ops) : ∀ op ∈ ops, op.verdict? place = none := fun op hop ↦
  SuppressionOp.verdict?_eq_none_iff.mpr fun hscope ↦ h ⟨op, hop, hscope⟩

/-- Operations that touch no place in common come to the same in every interleaving. -/
theorem performAll_interleaving {first second merged : List SuppressionOp}
    (interleaving : Interleaving first second merged)
    (apart : Disjoint (touched first) (touched second)) (suppression : Suppression) :
    suppression.performAll merged = suppression.performAll (first ++ second) := by
  refine ext_isBlocked fun place ↦ ?_
  rw [isBlocked_performAll, isBlocked_performAll, interleaving.latest?_eq_append]
  by_cases hfirst : place ∈ touched first
  · exact .inr (verdict?_eq_none_of_notMem_touched (Set.disjoint_left.mp apart hfirst))
  · exact .inl (verdict?_eq_none_of_notMem_touched hfirst)

/-- A place without a motor bit is not suppressed, and no attempt at it changes anything. -/
theorem inert_of_notMem_grid {place : Place} (h : place ∉ Place.grid) (suppression : Suppression) :
    suppression.block place = suppression ∧ suppression.unblock place = suppression ∧
      suppression.isBlocked place = false := by
  have hscope : (MotorMask.singleton place).places = ∅ := by
    rw [MotorMask.singleton, if_neg (mt Place.mem_grid.mpr h), MotorMask.places_empty]
  refine ⟨SuppressionOp.perform_of_scope_eq_empty (.block place) hscope suppression,
    SuppressionOp.perform_of_scope_eq_empty (.unblock place) hscope suppression, ?_⟩
  exact Bool.eq_false_iff.mpr fun hblocked ↦ h (suppression.motors.places_subset_grid hblocked)

theorem places_filter (suppression : Suppression) (steps : MotorMask) :
    (suppression.filter steps).places = steps.places \ suppression.motors.places :=
  MotorMask.places_diff steps suppression.motors

/-- What is suppressed is what the last operation on it says, places out of range are never
suppressed, a request is granted for what is not suppressed, and operations on different places may
be interleaved at will. -/
theorem lastWord_stands :
    (∀ (ops : List SuppressionOp) (place : Place),
      (empty.performAll ops).isBlocked place = true ↔
        place.axis < 16 ∧ place.slot < 2 ∧ LastSuppresses ops place) ∧
    (∀ (suppression : Suppression) (place : Place), place ∉ Place.grid →
      suppression.block place = suppression ∧ suppression.unblock place = suppression ∧
        suppression.isBlocked place = false) ∧
    (∀ (suppression : Suppression) (steps : MotorMask),
      (suppression.filter steps).places =
        {place ∈ steps.places | suppression.isBlocked place = false} ∧
      (suppression.filter steps).places ⊆ steps.places ∧
      Disjoint (suppression.filter steps).places suppression.motors.places ∧
      suppression.filter (suppression.filter steps) = suppression.filter steps) ∧
    (∀ first second merged : List SuppressionOp, Interleaving first second merged →
      Disjoint (touched first) (touched second) → ∀ suppression : Suppression,
        suppression.performAll merged = suppression.performAll (first ++ second)) := by
  refine ⟨fun ops place ↦ ?_, fun suppression place h ↦ inert_of_notMem_grid h suppression,
    fun suppression steps ↦ ⟨?_, ?_, ?_, ?_⟩, fun first second merged interleaving apart ↦
      performAll_interleaving interleaving apart⟩
  · have hgrid : LastSuppresses ops place → place.axis < 16 ∧ place.slot < 2 :=
      fun ⟨_, op, _, _, hscope, _⟩ ↦ op.scope.places_subset_grid hscope
    rw [← and_assoc, and_iff_right_of_imp hgrid, lastSuppresses_iff, isBlocked_performAll,
      show empty.isBlocked place = false from MotorMask.contains_empty place]
    cases latest? (SuppressionOp.verdict? place) ops <;> simp
  · rw [places_filter]
    ext place
    simp [MotorMask.mem_places, isBlocked]
  · rw [places_filter]
    exact Set.sdiff_subset
  · rw [places_filter]
    exact Set.disjoint_sdiff_left
  · refine MotorMask.places_injective ?_
    rw [places_filter, places_filter, Set.sdiff_sdiff, Set.union_self]

/-- Two lists of operations on different motors, the second with a place out of range. -/
def crosswise : List SuppressionOp × List SuppressionOp :=
  ([.block ⟨0, 0⟩, .unblock ⟨0, 0⟩, .blockAll (.singleton ⟨2, 1⟩)],
    [.unblock ⟨1, 1⟩, .block ⟨1, 1⟩, .block ⟨16, 0⟩])

def crosswiseMerged : List SuppressionOp :=
  [.unblock ⟨1, 1⟩, .block ⟨0, 0⟩, .block ⟨1, 1⟩, .unblock ⟨0, 0⟩, .blockAll (.singleton ⟨2, 1⟩),
    .block ⟨16, 0⟩]

theorem lastWord_stands_crosswise :
    Interleaving crosswise.1 crosswise.2 crosswiseMerged ∧
      Disjoint (touched crosswise.1) (touched crosswise.2) ∧
      empty.performAll crosswiseMerged = empty.performAll (crosswise.1 ++ crosswise.2) ∧
      (⟨16, 0⟩ : Place) ∉ Place.grid ∧ empty.block ⟨16, 0⟩ = empty := by
  have hmerged : Interleaving crosswise.1 crosswise.2 crosswiseMerged :=
    .right <| .left <| .right <| .left <| .left <| .right .nil
  have hapart : Disjoint (touched crosswise.1) (touched crosswise.2) := by
    refine Set.disjoint_left.mpr fun place hfirst hsecond ↦ ?_
    have hleft : (⟨0, 0⟩ : Place) = place ∨ (⟨2, 1⟩ : Place) = place := by
      simpa +decide [touched, crosswise, SuppressionOp.scope, MotorMask.mem_places,
        MotorMask.contains_singleton] using hfirst
    have hright : place = ⟨1, 1⟩ := by
      simpa +decide [touched, crosswise, SuppressionOp.scope, MotorMask.mem_places,
        MotorMask.contains_singleton] using hsecond
    rcases hleft with rfl | rfl
    · simp at hright
    · simp at hright
  have hout : (⟨16, 0⟩ : Place) ∉ Place.grid := fun h ↦ absurd h.1 (Nat.lt_irrefl 16)
  obtain ⟨-, hinert, -, hinterleaved⟩ := lastWord_stands
  exact ⟨hmerged, hapart, hinterleaved _ _ _ hmerged hapart empty, hout, (hinert empty _ hout).1⟩

end Suppression

end MotionControl
