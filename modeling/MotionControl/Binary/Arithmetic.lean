import MotionControl.Binary.Basic

/-!
# Arithmetic of binary floating-point numbers

Each operation computes the exact result in units of the format and rounds it once. What is left
are the conventions for infinities, NaN and the sign of zero: an exact sum of zero is negative only
if both summands are, and products and quotients take the product of the signs.
-/

set_option autoImplicit false
set_option relaxedAutoImplicit false

namespace MotionControl.Binary

variable {F : BinaryFormat}

/-- The signed magnitude of a finite number in units. -/
def signedUnits (F : BinaryFormat) (negative : Bool) (code : Nat) : Int :=
  if negative then -(F.units code : Int) else F.units code

protected def neg : Binary F → Binary F
  | nan => nan
  | inf negative => inf (!negative)
  | finite negative code => finite (!negative) code

protected def add : Binary F → Binary F → Binary F
  | nan, _ => nan
  | _, nan => nan
  | inf m, inf n => if m = n then inf m else nan
  | inf m, finite _ _ => inf m
  | finite _ _, inf n => inf n
  | finite m a, finite n b =>
    let total := signedUnits F m a + signedUnits F n b
    nearest (if total = 0 then m && n else decide (total < 0)) total.natAbs 1

protected def sub (a b : Binary F) : Binary F := Binary.add a (Binary.neg b)

protected def mul : Binary F → Binary F → Binary F
  | nan, _ => nan
  | _, nan => nan
  | inf m, inf n => inf (m != n)
  | inf m, finite n b => if b.val = 0 then nan else inf (m != n)
  | finite m a, inf n => if a.val = 0 then nan else inf (m != n)
  | finite m a, finite n b => nearest (m != n) (F.units a * F.units b) (twoPow F.scale)

protected def div : Binary F → Binary F → Binary F
  | nan, _ => nan
  | _, nan => nan
  | inf _, inf _ => nan
  | inf m, finite n _ => inf (m != n)
  | finite m _, inf n => ofCode (m != n) 0
  | finite m a, finite n b =>
    if b.val = 0 then (if a.val = 0 then nan else inf (m != n))
    else nearest (m != n) (F.units a * twoPow F.scale) (F.units b)

instance : Neg (Binary F) := ⟨Binary.neg⟩
instance : Add (Binary F) := ⟨Binary.add⟩
instance : Sub (Binary F) := ⟨Binary.sub⟩
instance : Mul (Binary F) := ⟨Binary.mul⟩
instance : Div (Binary F) := ⟨Binary.div⟩

end MotionControl.Binary
