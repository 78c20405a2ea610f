import MotionControl.Binary.Basic

/-!
# Values of a TOML document

A document is a tree of nodes. The entries of a table stand in the order in which the document first
names their keys. Dates and times are told apart from every other value, but not from one another.
-/

set_option autoImplicit false
set_option relaxedAutoImplicit false

namespace MotionControl.Toml

/-- A value of a document. -/
inductive Node
  | boolean (value : Bool)
  | integer (value : Int)
  | float (value : Double)
  | string (value : String)
  /-- A date, a time, or both. -/
  | moment
  | array (items : List Node)
  | table (entries : List (String × Node))
  deriving Repr

end MotionControl.Toml
