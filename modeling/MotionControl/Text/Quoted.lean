import MotionControl.Text.Visible

/-!
# Quoted text

Text between double quotes, in which quotes, backslashes and the usual control characters have a
two-character escape and every other character that is not shown as it is has its code point.
-/

set_option autoImplicit false
set_option relaxedAutoImplicit false

namespace MotionControl

/-- How a character appears between the quotes. -/
def quotedChar (c : Char) : List Char :=
  if c = '"' then ['\\', '"']
  else if c = '\\' then ['\\', '\\']
  else if c = '\n' then ['\\', 'n']
  else if c = '\r' then ['\\', 'r']
  else if c = '\t' then ['\\', 't']
  else if c = '\x00' then ['\\', '0']
  else if isVisible c then [c]
  else ['\\', 'u', '\x7b'] ++ Nat.toDigits 16 c.toNat ++ ['\x7d']

/-- The text in double quotes. -/
def quoted (text : String) : String :=
  String.ofList ('"' :: text.toList.flatMap quotedChar ++ ['"'])

end MotionControl
