import GuestWatch.BaudRate
import GuestWatch.Markers

/-! # Accepted configurations
-/
namespace GuestWatch.Config

/-- Refuses a request on a condition. -/
def refuseIf (condition : Bool) (r : Refusal) : Except Fault Unit :=
  if condition then .error (.invalidArgument r) else .ok ()

/-- Whether a marker has nothing but blanks. -/
def isBlankMarker (marker : String) : Bool := normalize marker == ""

/-- Refuses a configuration under which no run makes sense; the first reason is given. -/
def validate (c : Config) : Except Fault Unit := do
  refuseIf (c.timeoutSecs == 0) .zeroTimeout
  refuseIf (c.lineTimeoutMs == 0) .zeroLineTimeout
  let _ ← BaudRate.ofRate c.serial.baudRate.toNat
  refuseIf (c.emulator.binary == "") .emptyBinary
  refuseIf ((c.markers.pass ++ c.markers.fail).any isBlankMarker) .emptyMarker
  let _ ← Markers.expectPattern? c.markers.expect

end GuestWatch.Config
