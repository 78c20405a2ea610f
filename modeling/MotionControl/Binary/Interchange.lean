import MotionControl.Binary.Basic

/-!
# Bit patterns of binary floating-point numbers

From the most significant bit: the sign, then the code. Codes above that of infinity are NaN, and
NaN is written with only the leading fraction bit set.
-/

set_option autoImplicit false
set_option relaxedAutoImplicit false

namespace MotionControl.Binary

variable {F : BinaryFormat}

/-- The weight of the sign bit. -/
def signWeight (F : BinaryFormat) : Nat := twoPow (F.exponentBits + F.fractionBits)

def toBits : Binary F → Nat
  | nan => F.infinityCode + twoPow (F.fractionBits - 1)
  | inf negative => (if negative then signWeight F else 0) + F.infinityCode
  | finite negative code => (if negative then signWeight F else 0) + code

def ofBits (bits : Nat) : Binary F :=
  let code := bits % signWeight F
  if F.infinityCode < code then nan else ofCode ((bits / signWeight F) % 2 = 1) code

end MotionControl.Binary
