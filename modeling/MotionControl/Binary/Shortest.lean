import MotionControl.Binary.Basic

/-!
# The shortest decimal text of a binary floating-point number

A finite number is written with the fewest decimal digits that read back as the same number: on the
coarsest grid of multiples of a power of ten that has a point in the rounding interval of the
number, the nearest such point. The notation is positional at every magnitude.

The rounding interval runs half way to both neighbours; its ends belong to it when the code is even,
because a half rounds to the even code.
-/

set_option autoImplicit false
set_option relaxedAutoImplicit false

namespace MotionControl

/-- What rounds to one magnitude: from `low` to `high`, in quarters of a unit around the magnitude
`middle`. -/
structure RoundingInterval where
  low : Nat
  middle : Nat
  high : Nat
  /-- Whether the two ends belong to the interval. -/
  closed : Bool

namespace RoundingInterval

/-- The interval of a positive code. At the bottom of a binade the lower neighbour is only half as
far as the upper one. -/
def ofCode (F : BinaryFormat) (code : Nat) : RoundingInterval :=
  let gap := twoPow (code / twoPow F.fractionBits - 1)
  let middle := 4 * F.units code
  { low := if code % twoPow F.fractionBits = 0 ∧ 1 < gap then middle - gap else middle - 2 * gap
    middle
    high := middle + 2 * gap
    closed := code % 2 = 0 }

variable (interval : RoundingInterval)

/-- Whether `x`, in the quarters of a unit that `scaling` times `low` and `high` count, lies in the
interval. -/
def holds (scaling x : Nat) : Bool :=
  if interval.closed then interval.low * scaling ≤ x && x ≤ interval.high * scaling
  else interval.low * scaling < x && x < interval.high * scaling

/-- The multiple of `10 ^ exponent` in the interval that is nearest to its middle, as the factor of
the power; half way, the larger one. `one` is the number of quarters of a unit in one. -/
def gridPoint? (one : Nat) (exponent : Int) : Option Nat :=
  let scaling := tenPow (-exponent).toNat
  let spacing := one * tenPow exponent.toNat
  let value := interval.middle * scaling
  let below := value / spacing
  match interval.holds scaling (below * spacing),
    interval.holds scaling ((below + 1) * spacing) with
  | true, true => some (if 2 * value < (2 * below + 1) * spacing then below else below + 1)
  | true, false => some below
  | false, true => some (below + 1)
  | false, false => none

/-- The point of the coarsest grid among those of the exponents `count - scale`, …, `-scale` that
has one, with its exponent. The last grid always has one, the middle itself. -/
def coarsest (scale : Nat) : Nat → Nat × Int
  | 0 => ((interval.gridPoint? (4 * twoPow scale) (-scale)).getD 0, -scale)
  | count + 1 =>
    let exponent := ((count + 1 : Nat) : Int) - scale
    match interval.gridPoint? (4 * twoPow scale) exponent with
    | some digits => (digits, exponent)
    | none => coarsest scale count

end RoundingInterval

/-- The positional notation of `digits * 10 ^ exponent`. -/
def positional (digits : Nat) (exponent : Int) : List Char :=
  let figures := Nat.toDigits 10 digits
  if 0 ≤ exponent then figures ++ List.replicate exponent.toNat '0'
  else
    let places := (-exponent).toNat
    let padded := List.replicate (places + 1 - figures.length) '0' ++ figures
    padded.take (padded.length - places) ++ '.' :: padded.drop (padded.length - places)

/-- The shortest digits and exponent of a positive code. -/
def BinaryFormat.shortest (F : BinaryFormat) (code : Nat) : Nat × Int :=
  let interval := RoundingInterval.ofCode F code
  let wholeDigits := (Nat.toDigits 10 (interval.high / (4 * twoPow F.scale))).length
  interval.coarsest F.scale (wholeDigits + F.scale)

namespace Binary

variable {F : BinaryFormat}

/-- The magnitude of a code in the shortest digits. -/
def magnitudeText (F : BinaryFormat) (code : Nat) : List Char :=
  if code = 0 then ['0'] else positional (F.shortest code).1 (F.shortest code).2

/-- The text of a number; a NaN has no sign. -/
def text : Binary F → String
  | nan => "NaN"
  | inf negative => if negative then "-inf" else "inf"
  | finite negative code =>
    String.ofList ((if negative then ['-'] else []) ++ magnitudeText F code)

instance : ToString (Binary F) := ⟨text⟩

end Binary

end MotionControl
