/-!
# Binary floating-point numbers

A format is a number of fraction bits and a number of exponent bits. A finite number of a format is
a sign and a *code*, its exponent and fraction fields read as one natural number. Codes are in the
order of magnitudes, so comparing two numbers is comparing signed codes (`Binary.rank`).

Every magnitude is a whole number of *units*, the unit being the least positive magnitude of the
format (`BinaryFormat.units`). All arithmetic is exact on units and ends in one rounding,
`BinaryFormat.nearestCode`, to the nearest code, halves to the even one.

There is one NaN: sign and payload of a NaN are not part of a number.
-/

set_option autoImplicit false
set_option relaxedAutoImplicit false

namespace MotionControl

/-! ### Powers -/

/-- The power of two with the given exponent. -/
def twoPow (exponent : Nat) : Nat := Nat.pow 2 exponent

/-- The power of ten with the given exponent. -/
def tenPow (exponent : Nat) : Nat := Nat.pow 10 exponent

/-! ### Formats -/

/-- The widths of the two fields below the sign bit. -/
structure BinaryFormat where
  fractionBits : Nat
  exponentBits : Nat
  deriving DecidableEq, Repr

namespace BinaryFormat

/-- The 32-bit format. -/
def single : BinaryFormat := ⟨23, 8⟩

/-- The 64-bit format. -/
def double : BinaryFormat := ⟨52, 11⟩

variable (F : BinaryFormat)

/-- The code of infinity: every exponent bit set, every fraction bit clear. Smaller codes are those
of the finite magnitudes. -/
def infinityCode : Nat := (twoPow F.exponentBits - 1) * twoPow F.fractionBits

/-- One is `2 ^ scale` units. -/
def scale : Nat := twoPow (F.exponentBits - 1) - 2 + F.fractionBits

/-- The magnitude of a code in units. A zero exponent field has no implicit leading bit. -/
def units (code : Nat) : Nat :=
  let exponent := code / twoPow F.fractionBits
  let fraction := code % twoPow F.fractionBits
  if exponent = 0 then fraction else (twoPow F.fractionBits + fraction) * twoPow (exponent - 1)

end BinaryFormat

/-- The natural number nearest to `num / den`; halfway, the even one of the two neighbours. -/
def roundHalfEven (num den : Nat) : Nat :=
  let floor := num / den
  let rest := num % den
  if 2 * rest < den then floor
  else if den < 2 * rest then floor + 1
  else floor + floor % 2

/-- The code nearest to `num / den` units. With `k` the excess of the leading bit over the fraction
width, codes near the value are `2 ^ k` units apart, and the rounded multiple of `2 ^ k` counts on
from `k` full binades; a carry out of the fraction lands on the next binade by itself. -/
def BinaryFormat.nearestCode (F : BinaryFormat) (num den : Nat) : Nat :=
  let k := (num / den).log2 - F.fractionBits
  k * twoPow F.fractionBits + roundHalfEven num (den * twoPow k)

/-! ### Numbers -/

/-- A number of the format `F`. -/
inductive Binary (F : BinaryFormat)
  | nan
  | inf (negative : Bool)
  | finite (negative : Bool) (code : Fin F.infinityCode)
  deriving DecidableEq, Repr

/-- Single precision. -/
abbrev Single := Binary .single

/-- Double precision. -/
abbrev Double := Binary .double

namespace Binary

variable {F : BinaryFormat}

/-- The number with the given sign and code; codes from that of infinity on overflow to it. -/
def ofCode (negative : Bool) (code : Nat) : Binary F :=
  if h : code < F.infinityCode then .finite negative ⟨code, h⟩ else .inf negative

/-- The number nearest to `num / den` units with the given sign. -/
def nearest (negative : Bool) (num den : Nat) : Binary F :=
  ofCode negative (F.nearestCode num den)

/-- The number nearest to an integer. -/
def ofInt (n : Int) : Binary F :=
  nearest (decide (n < 0)) (n.natAbs * twoPow F.scale) 1

/-- The number nearest to `digits * 10 ^ exponent`. Beyond `10 ^ 2 ^ exponentBits` every value
overflows, and below the inverse of that (and the fraction width) every value vanishes, so no
larger power of ten is ever formed. -/
def ofDecimal (negative : Bool) (digits : Nat) (exponent : Int) : Binary F :=
  let size := exponent + (Nat.toDigits 10 digits).length
  let bound : Int := ((twoPow F.exponentBits + F.fractionBits : Nat) : Int)
  if digits = 0 ∨ size < -bound then ofCode negative 0
  else if bound < size then .inf negative
  else if 0 ≤ exponent then nearest negative (digits * tenPow exponent.toNat * twoPow F.scale) 1
  else nearest negative (digits * twoPow F.scale) (tenPow (-exponent).toNat)

instance (n : Nat) : OfNat (Binary F) n := ⟨ofInt n⟩

instance : OfScientific (Binary F) where
  ofScientific digits negativeExponent exponent :=
    ofDecimal false digits (if negativeExponent then -(exponent : Int) else exponent)

/-! ### Order -/

/-- The place of a number among the codes: the code of its magnitude with its sign. Both zeros have
the rank zero, and NaN has none. -/
def rank : Binary F → Option Int
  | nan => none
  | inf negative => some (if negative then -(F.infinityCode : Int) else F.infinityCode)
  | finite negative code => some (if negative then -(code : Int) else code)

/-- The order of two numbers, if neither is NaN. -/
def order? (a b : Binary F) : Option Ordering :=
  match a.rank, b.rank with
  | some i, some j => some (compare i j)
  | _, _ => none

def isFinite : Binary F → Bool
  | finite _ _ => true
  | _ => false

/-- Strictly above zero; false for NaN. -/
def isPositive (a : Binary F) : Bool := order? a 0 == some .gt

/-- Zero or above; false for NaN. -/
def isNonnegative (a : Binary F) : Bool := order? a 0 == some .gt || order? a 0 == some .eq

/-- The same number in another format, rounded if need be. -/
def convert {G : BinaryFormat} : Binary F → Binary G
  | nan => nan
  | inf negative => inf negative
  | finite negative code => nearest negative (F.units code * twoPow G.scale) (twoPow F.scale)

end Binary

end MotionControl
