import MotionControl.Registry.Basic
import MotionControl.Registry.Command

/-!
# Disabling and enabling motors

Motors are disabled and enabled axis by axis or all together; only the latter drives the shared
disable line. A mark remembers that some motor was disabled since all were last enabled. Enabling
all motors while the mark is set owes a wait until the motors are ready.
-/

set_option autoImplicit false
set_option relaxedAutoImplicit false

namespace MotionControl

/-- Whether motors were disabled since all were last enabled. -/
structure DisabledMark where
  isSet : Bool := false
  deriving DecidableEq, Repr

/-- A wait that is owed, in microseconds. -/
structure Settle where
  delay : Nat := 0
  deriving DecidableEq, Repr

namespace Settle

/-- No wait. -/
def none : Settle := {}

def isPending (settle : Settle) : Bool := 0 < settle.delay

/-- Waits, if there is anything to wait for. -/
def wait (settle : Settle) : List MachineEvent :=
  if settle.isPending then [.log (.motorSettle settle.delay), .delay settle.delay] else []

end Settle

namespace DisabledMark

def mark (_ : DisabledMark) : DisabledMark := ⟨true⟩

/-- Whether the mark is set; it is clear afterwards. -/
def take (mark : DisabledMark) : Bool × DisabledMark := (mark.isSet, ⟨false⟩)

end DisabledMark

namespace Registry

variable {D : Type} [MotorDriver D]

/-- Commands the drivers of one axis, without regard to the mark; answers whether there is such an
axis. -/
def switchAxis (registry : Registry .ready D) (index : Nat) (disable : Bool) :
    Outcome (Registry .ready D) MachineEvent Bool :=
  match registry.axis? index with
  | none => .still false registry
  | some axis =>
    let switched := axis.commandAll (.setDisable disable)
    { answer := true
      state := registry.modifyAxis index fun _ ↦ switched.state
      events := switched.events }

/-- Disables or enables the motors of one axis; an axis that does not exist is ignored. -/
def setDisableAxis (registry : Registry .ready D) (index : Nat) (disable : Bool)
    (mark : DisabledMark) : Outcome (Registry .ready D × DisabledMark) MachineEvent Unit :=
  let switched := registry.switchAxis index disable
  { answer := ()
    state := (switched.state, if switched.answer && disable then mark.mark else mark)
    events := switched.events }

/-- Disables or enables the motors of the axes of a list of indices, one after the other. -/
def setDisableAxes (disable : Bool) :
    List Nat → Registry .ready D → DisabledMark →
      Outcome (Registry .ready D × DisabledMark) MachineEvent Unit
  | [], registry, mark => .still () (registry, mark)
  | index :: rest, registry, mark =>
    let first := registry.setDisableAxis index disable mark
    let others := setDisableAxes disable rest first.state.1 first.state.2
    { others with events := first.events ++ others.events }

/-- Disables or enables all motors and drives the shared disable line. -/
def setDisable (registry : Registry .ready D) (disable : Bool) (mark : DisabledMark) :
    Outcome (Registry .ready D × DisabledMark) MachineEvent (Except AxisFault Settle) :=
  let switched := setDisableAxes disable (List.range registry.axes.length) registry mark
  let (registry, mark) := switched.state
  let driven := SharedOutput.disable.drive disable registry.disableLine
  let registry := { registry with disableLine := driven.state }
  let events := switched.events ++ driven.events
  if !driven.answer then ⟨.error .line, (registry, mark), events⟩
  else if disable then ⟨.ok .none, (registry, mark), events⟩
  else
    let (owed, mark) := mark.take
    ⟨.ok (if owed then ⟨registry.disableDelay⟩ else .none), (registry, mark), events⟩

end Registry

end MotionControl
