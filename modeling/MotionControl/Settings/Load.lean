import MotionControl.Settings.Decode
import MotionControl.Settings.Defects
import MotionControl.Toml.Document

/-!
# Settings from text and files

The settings of a machine are read from a TOML document, and used only if they have no defect.
-/

set_option autoImplicit false
set_option relaxedAutoImplicit false

namespace MotionControl

/-- Why a text gives no settings. -/
inductive DecodeFault
  /-- The text is no TOML document. -/
  | notDocument
  | mismatch (mismatch : Mismatch)
  deriving Repr

/-- Why a text or a file gives no usable settings. -/
inductive LoadFault
  /-- The text is no TOML document. -/
  | notDocument
  | fault (fault : ConfigFault)
  deriving DecidableEq, Repr

/-- A reading of a section from the root table of a text. -/
def decodeText {α : Type} (decode : Decoder α) (text : String) : Except DecodeFault α :=
  match Toml.parse? text with
  | none => .error .notDocument
  | some root => (decode root).mapError .mismatch

/-- What is at the path of a settings file. -/
inductive FileContent
  | absent
  | directory
  | bytes (content : ByteArray)

namespace MachineSettings

/-- The settings that a text gives, usable or not. -/
def ofText (text : String) : Except DecodeFault MachineSettings := decodeText decodeMachine text

/-- The settings that a text gives, if they are usable. -/
def load (text : String) : Except LoadFault MachineSettings :=
  match ofText text with
  | .error .notDocument => .error .notDocument
  | .error (.mismatch mismatch) =>
    .error (.fault (.unreadable (boundedReason mismatch.text)))
  | .ok settings =>
    match settings.validate with
    | .ok () => .ok settings
    | .error defect => .error (.fault defect)

/-- The settings that a file gives, if they are usable. -/
def loadFile (content : FileContent) : Except LoadFault MachineSettings :=
  let unavailable (reason : String) : Except LoadFault MachineSettings :=
    .error (.fault (.unavailable (boundedReason reason)))
  match content with
  | .absent => unavailable "No such file or directory (os error 2)"
  | .directory => unavailable "Is a directory (os error 21)"
  | .bytes content =>
    match String.fromUTF8? content with
    | some text => load text
    | none => unavailable "stream did not contain valid UTF-8"

end MachineSettings

end MotionControl
