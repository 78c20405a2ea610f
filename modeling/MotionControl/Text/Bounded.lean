/-!
# Text of bounded size

A bounded text takes characters as long as they fit its capacity in UTF-8 bytes. A character that
does not fit is left out, and a later, shorter one may still fit.
-/

set_option autoImplicit false
set_option relaxedAutoImplicit false

namespace MotionControl

/-- The characters that a text with `room` bytes left takes from a list, in order. -/
def fitting (room : Nat) : List Char → List Char
  | [] => []
  | c :: rest =>
    if c.utf8Size ≤ room then c :: fitting (room - c.utf8Size) rest else fitting room rest

end MotionControl
