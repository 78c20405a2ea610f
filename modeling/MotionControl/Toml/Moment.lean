import MotionControl.Toml.Scan

/-!
# Dates and times of a TOML document

A date of the Gregorian calendar, a time of day, or a date with a time and perhaps an offset. Only
whether a text is one matters.
-/

set_option autoImplicit false
set_option relaxedAutoImplicit false

namespace MotionControl.Toml

open Scan

/-- A number of exactly `count` digits. -/
def fixedNumber (count : Nat) : Scan Nat := do
  let digits ← exactly Char.isDigit count
  return digits.foldl (fun n c ↦ 10 * n + (c.toNat - '0'.toNat)) 0

/-- A two-digit number within bounds. -/
def twoDigits (low high : Nat) : Scan Nat := do
  let n ← fixedNumber 2
  check (low ≤ n && n ≤ high)
  return n

def isLeapYear (year : Nat) : Bool := year % 4 == 0 && (year % 100 != 0 || year % 400 == 0)

def daysInMonth (year month : Nat) : Nat :=
  if month == 2 then (if isLeapYear year then 29 else 28)
  else if month == 4 || month == 6 || month == 9 || month == 11 then 30
  else 31

def date : Scan Unit := do
  let year ← fixedNumber 4
  char '-'
  let month ← twoDigits 1 12
  char '-'
  discard (twoDigits 1 (daysInMonth year month))

/-- A time of day; the sixtieth second is a leap second. -/
def timeOfDay : Scan Unit := do
  discard (twoDigits 0 23)
  char ':'
  discard (twoDigits 0 59)
  char ':'
  discard (twoDigits 0 60)
  discard (maybe (do char '.'; runOf1 Char.isDigit))

def offset : Scan Unit :=
  discard (charWhere fun c ↦ c == 'Z' || c == 'z') <|> (do
    discard (charWhere fun c ↦ c == '+' || c == '-')
    discard (twoDigits 0 23)
    char ':'
    discard (twoDigits 0 59))

def dateAndTime : Scan Unit := do
  date
  discard (maybe (do
    discard (charWhere fun c ↦ c == 'T' || c == 't' || c == ' ')
    timeOfDay
    maybe offset))

/-- A date, a time, or both. -/
def moment : Scan Unit := dateAndTime <|> timeOfDay

end MotionControl.Toml
