import MotionControl.Binary.Arithmetic

/-!
# Physical quantities

Lengths, feed rates and accelerations are single-precision numbers that the type keeps apart by
their unit.
-/

set_option autoImplicit false
set_option relaxedAutoImplicit false

namespace MotionControl

/-- A length or position in millimetres. -/
structure Length where
  mm : Single
  deriving DecidableEq, Repr

/-- A speed in millimetres per minute. -/
structure FeedRate where
  mmPerMinute : Single
  deriving DecidableEq, Repr

/-- An acceleration in millimetres per second squared. -/
structure Acceleration where
  mmPerSecondSquared : Single
  deriving DecidableEq, Repr

instance : Add Length := ⟨fun a b ↦ ⟨a.mm + b.mm⟩⟩
instance : Sub Length := ⟨fun a b ↦ ⟨a.mm - b.mm⟩⟩
instance : Neg Length := ⟨fun a ↦ ⟨-a.mm⟩⟩

/-- The order of two lengths, if neither is NaN. -/
def Length.order? (a b : Length) : Option Ordering := Binary.order? a.mm b.mm

/-- The order of two accelerations, if neither is NaN. -/
def Acceleration.order? (a b : Acceleration) : Option Ordering :=
  Binary.order? a.mmPerSecondSquared b.mmPerSecondSquared

namespace FeedRate

def scale (rate : FeedRate) (factor : Single) : FeedRate := ⟨rate.mmPerMinute * factor⟩

/-- The speed in millimetres per second. -/
def perSecond (rate : FeedRate) : Single := rate.mmPerMinute / 60

end FeedRate

end MotionControl
