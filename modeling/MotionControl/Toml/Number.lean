import MotionControl.Toml.Node
import MotionControl.Toml.Scan

/-!
# Numbers of a TOML document

Integers have 64 bits and a sign, in decimal, or without a sign in hexadecimal, octal or binary
digits. Decimal numbers with a fraction or an exponent are double-precision numbers, as are the
names of infinity and NaN. A single underscore may stand between two digits.
-/

set_option autoImplicit false
set_option relaxedAutoImplicit false

namespace MotionControl.Toml

open Scan

/-- The value of a digit in any base up to sixteen. -/
def digitValue (c : Char) : Nat :=
  if c.isDigit then c.toNat - '0'.toNat else c.toLower.toNat - 'a'.toNat + 10

def isHexDigit (c : Char) : Bool := c.isDigit || ('a' ≤ c.toLower && c.toLower ≤ 'f')

def isOctalDigit (c : Char) : Bool := '0' ≤ c && c ≤ '7'

def isBinaryDigit (c : Char) : Bool := c == '0' || c == '1'

/-- The number that digits of a base write. -/
def ofDigits (base : Nat) (digits : List Char) : Nat :=
  digits.foldl (fun n c ↦ base * n + digitValue c) 0

/-- Digits of a class with single underscores between them; the digits alone are kept. -/
def figures (accepts : Char → Bool) : Scan (List Char) := do
  let first ← charWhere accepts
  return first :: (← many (charWhere accepts <|> (do char '_'; charWhere accepts)))

/-- A sign; true for minus. -/
def sign : Scan Bool := (char '-').standsFor true <|> (char '+').standsFor false

/-- A sign that may be absent; true for minus. -/
def optionalSign : Scan Bool := do return (← maybe sign).getD false

/-- The digits of a whole number without superfluous zeros in front. -/
def wholeDigits : Scan (List Char) := do
  match ← peek with
  | some '0' => (char '0').standsFor ['0']
  | _ => figures Char.isDigit

/-- An integer, if it fits 64 bits. -/
def integerNode (n : Int) : Scan Node := do
  check (Int64.minValue.toInt ≤ n && n ≤ Int64.maxValue.toInt)
  return .integer n

def decimalInteger : Scan Node := do
  let negative ← optionalSign
  let n := ofDigits 10 (← wholeDigits)
  integerNode (if negative then -(n : Int) else n)

/-- An integer in the base that its second character names. -/
def basedInteger : Scan Node := do
  char '0'
  let based (letter : Char) (base : Nat) (accepts : Char → Bool) : Scan Node := do
    char letter
    integerNode (ofDigits base (← figures accepts))
  based 'x' 16 isHexDigit <|> based 'o' 8 isOctalDigit <|> based 'b' 2 isBinaryDigit

def exponent : Scan Int := do
  discard (charWhere fun c ↦ c == 'e' || c == 'E')
  let negative ← optionalSign
  let n := ofDigits 10 (← figures Char.isDigit)
  return if negative then -(n : Int) else n

def fraction : Scan (List Char) := do
  char '.'
  figures Char.isDigit

/-- A decimal number with a fraction, an exponent, or both. One that rounds to positive infinity is
none. -/
def decimalFloat : Scan Node := do
  let negative ← optionalSign
  let whole ← wholeDigits
  let places := (← maybe fraction).getD []
  let power ← maybe exponent
  check (!places.isEmpty || power.isSome)
  let value : Double :=
    .ofDecimal negative (ofDigits 10 (whole ++ places)) (power.getD 0 - places.length)
  check (value != .inf false)
  return .float value

/-- The names of infinity and NaN. -/
def namedFloat : Scan Node := do
  let negative ← optionalSign
  (word ['i', 'n', 'f']).standsFor (.float (.inf negative)) <|>
    (word ['n', 'a', 'n']).standsFor (.float .nan)

end MotionControl.Toml
