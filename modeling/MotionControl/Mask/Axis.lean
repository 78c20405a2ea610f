/-!
# Sets of axes

A set of axes is eight bits, bit `i` for the axis of index `i`. Indices beyond the width belong to
no set: adding or removing one changes nothing.
-/

set_option autoImplicit false
set_option relaxedAutoImplicit false

namespace MotionControl

/-- A set of axes. -/
structure AxisMask where
  bits : BitVec 8
  deriving DecidableEq, Repr

namespace AxisMask

def empty : AxisMask := ⟨0⟩

/-- The set of one axis; empty for an index beyond the width. -/
def singleton (axis : Nat) : AxisMask := if axis < 8 then ⟨BitVec.twoPow 8 axis⟩ else empty

/-- The axes of an index below `count`. -/
def below (count : Nat) : AxisMask := ⟨BitVec.allOnes 8 >>> (8 - count)⟩

def contains (mask : AxisMask) (axis : Nat) : Bool := axis < 8 && mask.bits.getLsbD axis

def union (a b : AxisMask) : AxisMask := ⟨a.bits ||| b.bits⟩

def inter (a b : AxisMask) : AxisMask := ⟨a.bits &&& b.bits⟩

def insert (mask : AxisMask) (axis : Nat) : AxisMask := mask.union (singleton axis)

def erase (mask : AxisMask) (axis : Nat) : AxisMask := ⟨mask.bits &&& ~~~(singleton axis).bits⟩

def isEmpty (mask : AxisMask) : Bool := mask.bits == 0

/-- The indices of the members, ascending. -/
def toList (mask : AxisMask) : List Nat := (List.range 8).filter mask.contains

end AxisMask

end MotionControl
