import MotionControl.Text.Blank

/-!
# Pins

A pin is named by a short text, which is kept as it was written or not at all. A blank text, and the
name for no pin in any ASCII case, name no pin.
-/

set_option autoImplicit false
set_option relaxedAutoImplicit false

namespace MotionControl

/-- The most bytes that the text of a pin takes. -/
def pinCapacity : Nat := 32

/-- The name for no pin. -/
def undefinedPin : String := "NO_PIN"

/-- The text of a pin. -/
structure Pin where
  text : String
  fits : text.utf8ByteSize ≤ pinCapacity
  deriving DecidableEq, Repr

namespace Pin

/-- No pin. -/
def unwired : Pin := ⟨"", by decide⟩

/-- The pin of a text, if the text fits. -/
def ofText? (text : String) : Option Pin :=
  if fits : text.utf8ByteSize ≤ pinCapacity then some ⟨text, fits⟩ else none

/-- The pin of a text; a text that does not fit gives no pin. -/
def ofText (text : String) : Pin := (ofText? text).getD unwired

/-- Whether the text names a pin. -/
def isDefined (pin : Pin) : Bool :=
  let name := trimBlank pin.text.toList
  !name.isEmpty && name.map Char.toUpper != undefinedPin.toList

end Pin

end MotionControl
