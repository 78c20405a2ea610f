import MotionControl.Axis
import MotionControl.Letters
import MotionControl.Registry.Event

/-!
# The axis registry

The registry of a machine holds its axes, by index, with what they share. It is first assembled and
then brought up; only a registry that is up commands its motors, so the stage is part of the type.
-/

set_option autoImplicit false
set_option relaxedAutoImplicit false

namespace MotionControl

/-- How far the registry has come. -/
inductive Stage
  /-- Assembled; no driver has been commanded. -/
  | parsed
  /-- Brought up. -/
  | ready
  deriving DecidableEq, Repr

/-- The registry of a machine with motor drivers of the type `D`. -/
structure Registry (stage : Stage) (D : Type) where
  axes : List (Axis D)
  homingRuns : Nat
  /-- Microseconds that motors take to be ready after they are enabled. -/
  disableDelay : Nat
  disableLine : Option SharedLine
  resetLine : Option SharedLine
  /-- The axes that are homed towards the negative end of their travel, once the registry is up. -/
  homingDirections : AxisMask
  deriving DecidableEq, Repr

namespace Registry

variable {stage : Stage} {D : Type}

def axis? (registry : Registry stage D) (index : Nat) : Option (Axis D) := registry.axes[index]?

def motor? (registry : Registry stage D) (place : Place) : Option (Motor D) :=
  (registry.axis? place.axis).bind fun axis ↦ axis.motor? place.slot

/-- The letters of the axes, by index. -/
def letters (registry : Registry stage D) : List Char := axisLetters.take registry.axes.length

/-- The places of all motors, in the order of axes and slots. -/
def places (registry : Registry stage D) : List Place := registry.axes.flatMap Axis.places

/-- The axes with a motor that applies hard limits. -/
def hardLimitMask (registry : Registry stage D) : AxisMask :=
  registry.axes.zipIdx.foldl
    (fun mask entry ↦ if entry.1.hardLimits then mask.insert entry.2 else mask) .empty

/-- Changes one axis. -/
def modifyAxis (registry : Registry stage D) (index : Nat) (change : Axis D → Axis D) :
    Registry stage D :=
  { registry with axes := registry.axes.modify index change }

end Registry

/-! ### Looking drivers up -/

/-- A driver was looked up that is mounted nowhere. -/
structure NotMounted where
  name : String
  deriving DecidableEq, Repr

def NotMounted.text (fault : NotMounted) : String :=
  s!"Cannot find axis for motor driver '{fault.name}'"

namespace Registry

variable {stage : Stage} {D : Type}

/-- The axis and the slot in which a driver is mounted. -/
def find [MotorDriver D] (registry : Registry stage D) (ref : DriverRef D) :
    Except NotMounted (Nat × Nat) :=
  let found := registry.axes.zipIdx.findSome? fun entry ↦
    (entry.1.slotOf? ref).map fun slot ↦ (entry.2, slot)
  match found with
  | some place => .ok place
  | none => .error ⟨MotorDriver.name ref.driver⟩

/-- The axis on which a driver is mounted. -/
def findAxis [MotorDriver D] (registry : Registry stage D) (ref : DriverRef D) :
    Except NotMounted Nat := (registry.find ref).map Prod.fst

/-- The slot in which a driver is mounted. -/
def findSlot [MotorDriver D] (registry : Registry stage D) (ref : DriverRef D) :
    Except NotMounted Nat := (registry.find ref).map Prod.snd

/-- The driver mounted at a place. -/
def driverAt? (registry : Registry stage D) (place : Place) : Option (DriverRef D) :=
  (registry.motor? place).map fun motor ↦ ⟨motor.driver, some place⟩

end Registry

end MotionControl
