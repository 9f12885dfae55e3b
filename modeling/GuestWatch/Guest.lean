/-! # Guests

A guest is either emulated or attached to a serial line. The name that a user gives selects which:
one exact word stands for the emulated guest, and anything else is the path of a device.
-/
namespace GuestWatch

inductive Guest
  | emulated
  | serial (device : String)
deriving DecidableEq, Repr

namespace Guest

/-- The name that selects the emulated guest. -/
def emulatedName : String := "qemu"

def select (name : String) : Guest := if name = emulatedName then .emulated else .serial name

/-- The name under which reports show the guest. -/
def name : Guest → String
  | .emulated => emulatedName
  | .serial device => "serial:" ++ device

/-- The device of a serial guest; the emulated one has none. -/
def device : Guest → String
  | .emulated => ""
  | .serial device => device

end Guest

/-- The two ways to reach a guest. -/
inductive BackendKind
  | emulator
  | serialLine
deriving DecidableEq, Repr

/-- The name of a backend in messages. -/
def BackendKind.name : BackendKind → String
  | .emulator => "qemu"
  | .serialLine => "serial"

/-- The backend through which a guest is reached. -/
def Guest.backendKind : Guest → BackendKind
  | .emulated => .emulator
  | .serial _ => .serialLine

end GuestWatch
