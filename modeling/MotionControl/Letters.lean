import MotionControl.Log
import MotionControl.Text.Bounded

/-!
# Letters for axes and motors

A letter table gives each axis, by index, a character. Sets of axes and of motors are rendered with
the letters of the table, in index order, within a small bounded text; a text is resolved back into
a set of axes, whatever the case of its ASCII letters.
-/

set_option autoImplicit false
set_option relaxedAutoImplicit false

namespace MotionControl

/-- The bytes of the text that names a set of motors. -/
def motorLettersCapacity : Nat := 32

/-- The most unknown letters that a resolution keeps. -/
def maxInvalidLetters : Nat := 8

/-- The letters of the axes in the set, in index order. -/
def AxisMask.fullLetters (table : List Char) (mask : AxisMask) : List Char :=
  (table.zipIdx.filter fun entry ↦ mask.contains entry.2).map Prod.fst

/-- The letters of the axes in the set, as far as they fit one byte per possible axis. -/
def AxisMask.letters (table : List Char) (mask : AxisMask) : String :=
  String.ofList (fitting maxAxes (mask.fullLetters table))

/-- A space and the letter of each primary motor in the set, then a space, the letter and the digit
two for each secondary motor. -/
def MotorMask.fullLetters (table : List Char) (mask : MotorMask) : List Char :=
  let motorsOf (slot : Nat) (suffix : List Char) : List Char :=
    (table.zipIdx.filter fun entry ↦ mask.contains ⟨entry.2, slot⟩).flatMap
      fun entry ↦ ' ' :: entry.1 :: suffix
  motorsOf 0 [] ++ motorsOf 1 ['2']

/-- The names of the motors in the set, as far as they fit. -/
def MotorMask.letters (table : List Char) (mask : MotorMask) : String :=
  String.ofList (fitting motorLettersCapacity (mask.fullLetters table))

/-- What a text of axis letters resolves to. -/
structure Resolution where
  mask : AxisMask
  /-- The first letters that name no axis, as they were written. -/
  invalid : List Char
  log : List LogEntry
  deriving DecidableEq, Repr

namespace Resolution

def empty : Resolution := ⟨.empty, [], []⟩

/-- Whether every letter named an axis. -/
def isValid (resolution : Resolution) : Bool := resolution.invalid.isEmpty

/-- The first axis of the table with the given letter, whatever its ASCII case. -/
def axisOf? (table : List Char) (letter : Char) : Option Nat :=
  table.findIdx? (· == letter.toUpper)

/-- Takes one more letter into account. An unknown one is reported, and kept while there is room. -/
def push (table : List Char) (resolution : Resolution) (letter : Char) : Resolution :=
  match axisOf? table letter with
  | some axis => { resolution with mask := resolution.mask.insert axis }
  | none =>
    { resolution with
      invalid :=
        if resolution.invalid.length < maxInvalidLetters then resolution.invalid ++ [letter]
        else resolution.invalid
      log := resolution.log ++ [.unknownLetter letter] }

/-- Resolves a text letter by letter. -/
def ofText (table : List Char) (text : List Char) : Resolution := text.foldl (push table) empty

end Resolution

end MotionControl
