/-!
# Reading text from the front

A scan reads something from the front of a text and leaves the rest, or does not apply. What stands
where a scan does not apply is left for the next one, so a malformed text shows as a rest that
nothing reads.
-/

set_option autoImplicit false
set_option relaxedAutoImplicit false

namespace MotionControl.Toml

/-- A reader of the front of a text. -/
abbrev Scan := StateT (List Char) Option

namespace Scan

variable {α β : Type}

/-- Reads a text to its end. -/
def run? (p : Scan α) (text : List Char) : Option α :=
  match p text with
  | some (a, []) => some a
  | _ => none

/-- The next character, which stays. -/
def peek : Scan (Option Char) := fun text ↦ some (text.head?, text)

/-- Applies only at the end of the text. -/
def atEnd : Scan Unit := fun text ↦ if text.isEmpty then some ((), []) else none

/-- One character of a class. -/
def charWhere (accepts : Char → Bool) : Scan Char
  | [] => none
  | c :: rest => if accepts c then some (c, rest) else none

def char (c : Char) : Scan Unit := discard (charWhere (· == c))

/-- The given characters, in order. -/
def word : List Char → Scan Unit
  | [] => pure ()
  | c :: rest => do
    char c
    word rest

/-- The longest run of characters of a class, possibly empty. -/
def runOf (accepts : Char → Bool) : Scan (List Char) :=
  fun text ↦ some (text.takeWhile accepts, text.dropWhile accepts)

/-- The longest run of characters of a class, not empty. -/
def runOf1 (accepts : Char → Bool) : Scan (List Char) := do
  let first ← charWhere accepts
  return first :: (← runOf accepts)

/-- The given value, wherever the scan applies. -/
def standsFor (p : Scan β) (a : α) : Scan α := do
  discard p
  return a

/-- What the scan reads, if it applies. -/
def maybe (p : Scan α) : Scan (Option α) := (some <$> p) <|> pure none

/-- What a scan reads, as often as it applies and reads something. -/
def many (p : Scan α) (text : List Char) : Option (List α × List Char) :=
  match p text with
  | none => some ([], text)
  | some (a, rest) =>
    if rest.length < text.length then (many p rest).map fun (as, last) ↦ (a :: as, last)
    else some ([], text)
termination_by text.length

/-- Exactly `count` characters of a class. -/
def exactly (accepts : Char → Bool) : Nat → Scan (List Char)
  | 0 => pure []
  | count + 1 => do
    let first ← charWhere accepts
    return first :: (← exactly accepts count)

/-- One or more readings of `p` with `separator` between them. -/
def sepBy1 (p : Scan α) (separator : Scan Unit) : Scan (List α) := do
  let first ← p
  return first :: (← many (separator *> p))

/-- Applies only if the condition holds. -/
def check (condition : Bool) : Scan Unit := if condition then pure () else failure

end Scan

/-! ### Spaces, lines and comments -/

def isSpace (c : Char) : Bool := c == ' ' || c == '\t'

/-- Characters that may stand in text and comments: beyond ASCII all of them, within it all but the
control characters, the tab apart. -/
def isPlain (c : Char) : Bool := c == '\t' || (0x20 ≤ c.toNat && c.toNat != 0x7f)

def spaces : Scan Unit := discard (Scan.runOf isSpace)

/-- A line feed, with or without a carriage return before it. -/
def newline : Scan Unit := Scan.char '\n' <|> Scan.word ['\r', '\n']

/-- A comment without the end of its line. -/
def comment : Scan Unit := do
  Scan.char '#'
  discard (Scan.runOf isPlain)

/-- The end of a line or of the text. -/
def lineEnd : Scan Unit := newline <|> Scan.atEnd

/-- What may follow on a line after its content. -/
def lineRest : Scan Unit := do
  spaces
  discard (Scan.maybe comment)
  lineEnd

/-- Any spaces, line breaks and comments. -/
def gaps : Scan Unit :=
  discard (Scan.many
    (discard (Scan.runOf1 isSpace) <|> newline <|> (do comment; newline)))

end MotionControl.Toml
