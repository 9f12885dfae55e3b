import GuestWatch.Config.Reader
import GuestWatch.Config.Validation
import GuestWatch.Options

/-! # Options over configuration files

The configuration of a run is that of the file, or else the default one, with every option that was
given laid over it. Markers given as options are added to those already there. Whether the result
is acceptable is decided once, at the end, so an option can mend what the file has wrong.
-/
namespace GuestWatch.Settings

/-- Lays the options over a configuration. -/
def applyTo (s : Settings) (base : Config) : Config where
  timeoutSecs := s.timeout.getD base.timeoutSecs
  lineTimeoutMs := s.lineTimeout.getD base.lineTimeoutMs
  emulator := { base.emulator with
    binary := s.emulator.getD base.emulator.binary
    machine := s.machine.getD base.emulator.machine
    kernel := s.kernel.getD base.emulator.kernel }
  serial := ⟨s.baud.getD base.serial.baudRate⟩
  markers := { base.markers with
    pass := base.markers.pass ++ s.passMarkers
    fail := base.markers.fail ++ s.failMarkers
    expect := s.expect.or base.markers.expect }

/-- The configuration that the options are laid over; `read` reads files as text. -/
def base (read : Path → Except String String) (s : Settings) : Except Fault Config :=
  match s.config with
  | none => .ok .default
  | some path =>
    match read path with
    | .ok text => Config.ofText text
    | .error reason => .error (.invalidArgument (.unreadableConfig path reason))

/-- The configuration that the options ask for, if it is acceptable. -/
def configuration (read : Path → Except String String) (s : Settings) : Except Fault Config := do
  let c := s.applyTo (← s.base read)
  c.validate
  return c

end GuestWatch.Settings
