import MotionControl.Place
import MotionControl.Mask.Axis

/-!
# Sets of motors

A set of motors is 32 bits in two ranges of sixteen: bit `i` stands for the primary motor of axis
`i` and bit `16 + i` for its secondary motor. Places outside the two ranges belong to no set, so an
axis index can never reach into the other range.
-/

set_option autoImplicit false
set_option relaxedAutoImplicit false

namespace MotionControl

/-- The axes of each range of a motor mask; the secondary motors start at this bit. -/
def motorRange : Nat := 16

/-- The bit of a place, as an unbounded number. -/
def Place.bit (place : Place) : Nat := place.axis + motorRange * place.slot

/-- Whether a motor mask has a bit for the place. -/
def Place.inRange (place : Place) : Bool := place.axis < motorRange && place.slot < slotsPerAxis

/-- A set of motors. -/
structure MotorMask where
  bits : BitVec 32
  deriving DecidableEq, Repr

namespace MotorMask

def empty : MotorMask := ⟨0⟩

/-- The set of one motor; empty for a place out of range. -/
def singleton (place : Place) : MotorMask :=
  if place.inRange then ⟨BitVec.twoPow 32 place.bit⟩ else empty

def contains (mask : MotorMask) (place : Place) : Bool :=
  place.inRange && mask.bits.getLsbD place.bit

def union (a b : MotorMask) : MotorMask := ⟨a.bits ||| b.bits⟩

def inter (a b : MotorMask) : MotorMask := ⟨a.bits &&& b.bits⟩

def compl (mask : MotorMask) : MotorMask := ⟨~~~mask.bits⟩

/-- The members of the first set that the second lacks. -/
def diff (a b : MotorMask) : MotorMask := a.inter b.compl

def insert (mask : MotorMask) (place : Place) : MotorMask := mask.union (singleton place)

def erase (mask : MotorMask) (place : Place) : MotorMask := mask.diff (singleton place)

def isEmpty (mask : MotorMask) : Bool := mask.bits == 0

/-- The axes whose primary motor is in the set. -/
def primaryAxes (mask : MotorMask) : AxisMask := ⟨mask.bits.setWidth 8⟩

/-- The axes whose secondary motor is in the set. -/
def secondaryAxes (mask : MotorMask) : AxisMask := ⟨(mask.bits >>> motorRange).setWidth 8⟩

/-- The axes with a motor in the set. -/
def axes (mask : MotorMask) : AxisMask := mask.primaryAxes.union mask.secondaryAxes

end MotorMask

end MotionControl
