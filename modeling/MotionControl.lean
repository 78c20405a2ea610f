import MotionControl.Binary.Arithmetic
import MotionControl.Binary.Interchange
import MotionControl.Letters
import MotionControl.Proofs.Pulse.Discipline
import MotionControl.Proofs.Pulse.Gate
import MotionControl.Proofs.Pulse.Interrupt
import MotionControl.Proofs.Registry.Configuration
import MotionControl.Proofs.Registry.DisableMark
import MotionControl.Pulse.Run
import MotionControl.Registry.BringUp
import MotionControl.Registry.Builder
import MotionControl.Registry.Disable
import MotionControl.Registry.Homing
import MotionControl.Settings.Load
import MotionControl.Proofs.Binary.Order
import MotionControl.Proofs.Settings.Acceptance
import MotionControl.Proofs.Settings.TravelLimits
import MotionControl.Proofs.Registry.Continuation
import MotionControl.Proofs.Settings.Sufficiency
import MotionControl.Proofs.Registry.EventOrder
import MotionControl.Proofs.Registry.Interleaving
import MotionControl.Proofs.Letters.RoundTrip
import MotionControl.Proofs.Letters.MotorNames
import MotionControl.Proofs.Pulse.Relay
import MotionControl.Proofs.Settings.FirstDefect
import MotionControl.Proofs.Settings.Spelling
import MotionControl.Proofs.Registry.DriverRequests
import MotionControl.Proofs.Registry.FixedTable
import MotionControl.Proofs.Mask.Places
import MotionControl.Proofs.Suppression
import MotionControl.Proofs.Pulse.Refusals
import MotionControl.Proofs.Settings.Pins
import MotionControl.Proofs.Settings.Entries
import MotionControl.Proofs.FaultText
