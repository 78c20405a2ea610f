import MotionControl.Toml.Number

/-!
# Strings of a TOML document

Strings stand between double quotes, where a backslash starts an escape, or between single quotes,
where every character stands for itself. Three quotes open a string of several lines: a line break
right after them is dropped, every other line break is a line feed, and up to two quotes may stand
next to each other inside and right before the closing quotes.
-/

set_option autoImplicit false
set_option relaxedAutoImplicit false

namespace MotionControl.Toml

open Scan

/-- A character given by its code in a fixed number of hexadecimal digits. -/
def codePoint (digits : Nat) : Scan Char := do
  let n := ofDigits 16 (← exactly isHexDigit digits)
  check (n < 0xd800 || (0xdfff < n && n < 0x110000))
  return Char.ofNat n

/-- What a backslash and the characters after it stand for. -/
def escape : Scan Char := do
  char '\\'
  let c ← charWhere fun _ ↦ true
  match c with
  | 'b' => pure '\x08'
  | 't' => pure '\t'
  | 'n' => pure '\n'
  | 'f' => pure '\x0c'
  | 'r' => pure '\r'
  | '"' => pure '"'
  | '\\' => pure '\\'
  | 'u' => codePoint 4
  | 'U' => codePoint 8
  | _ => failure

/-- Characters that stand for themselves between double quotes. -/
def isBasic (c : Char) : Bool := isPlain c && c != '"' && c != '\\'

/-- Characters that stand for themselves between single quotes. -/
def isLiteral (c : Char) : Bool := isPlain c && c != '\''

/-- A string of one line between double quotes. -/
def basicString : Scan String := do
  char '"'
  let pieces ← many (runOf1 isBasic <|> (List.singleton <$> escape))
  char '"'
  return String.ofList pieces.flatten

/-- A string of one line between single quotes. -/
def literalString : Scan String := do
  char '\''
  let text ← runOf isLiteral
  char '\''
  return String.ofList text

/-- A backslash at the end of a line, which drops all spaces and line breaks that follow. -/
def continuation : Scan Unit := do
  char '\\'
  spaces
  newline
  discard (many (discard (runOf1 isSpace) <|> newline))

/-- One or two quotes inside a string of several lines. -/
def innerQuotes (quote : Char) : Scan (List Char) := do
  let quotes ← runOf1 (· == quote)
  check (quotes.length < 3)
  return quotes

/-- A string of several lines: its opening quotes, pieces of content, and its closing quotes with up
to two more before them. -/
def multilineString (quote : Char) (piece : Scan (List Char)) : Scan String := do
  word [quote, quote, quote]
  discard (maybe newline)
  let pieces ← many (piece <|> newline.standsFor ['\n'] <|> innerQuotes quote)
  word [quote, quote, quote]
  let extra ← maybe (char quote)
  let more ← maybe (check extra.isSome *> char quote)
  return String.ofList
    (pieces.flatten ++ (extra.toList ++ more.toList).map fun _ ↦ quote)

/-- A string of several lines between double quotes. -/
def multilineBasic : Scan String :=
  multilineString '"' (runOf1 isBasic <|> continuation.standsFor [] <|> (List.singleton <$> escape))

/-- A string of several lines between single quotes. -/
def multilineLiteral : Scan String := multilineString '\'' (runOf1 isLiteral)

/-- A string that may be a key. -/
def lineString : Scan String := basicString <|> literalString

/-- Any string. -/
def quotation : Scan String :=
  multilineBasic <|> basicString <|> multilineLiteral <|> literalString

end MotionControl.Toml
