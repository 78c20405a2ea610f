/-!
# Places of motors

A machine has up to six axes, lettered in a fixed order, and each axis carries up to two motors: the
first slot holds its primary motor, the second its secondary motor. A *place* is a pair of an axis
index and a slot. Both are unbounded here, because callers ask for places that do not exist.
-/

set_option autoImplicit false
set_option relaxedAutoImplicit false

namespace MotionControl

/-- The most axes a machine can have. -/
abbrev maxAxes : Nat := 6

/-- The motors an axis can carry. -/
abbrev slotsPerAxis : Nat := 2

/-- The fewest axes a machine counts, whether or not they are configured. -/
def minAxes : Nat := 3

/-- The letters of the axes, by index. -/
def axisLetters : List Char := ['X', 'Y', 'Z', 'A', 'B', 'C']

/-- The letter of an axis; an index without a letter shows as a question mark. -/
def axisLetter (axis : Nat) : Char := axisLetters[axis]?.getD '?'

/-- Where a motor is mounted. -/
structure Place where
  axis : Nat
  slot : Nat
  deriving DecidableEq, Repr

/-- The places of one axis in slot order. -/
def Place.ofAxis (axis : Nat) : List Place := [⟨axis, 0⟩, ⟨axis, 1⟩]

end MotionControl
