import GuestWatch.Fault

/-! # Line speeds

The speeds a serial line can be set to.
-/
namespace GuestWatch

inductive BaudRate
  | b1200 | b2400 | b4800 | b9600 | b19200 | b38400 | b57600 | b115200 | b230400 | b460800
  | b921600
deriving DecidableEq, Repr

namespace BaudRate

/-- Bits per second. -/
def bits : BaudRate → Nat
  | .b1200 => 1200
  | .b2400 => 2400
  | .b4800 => 4800
  | .b9600 => 9600
  | .b19200 => 19200
  | .b38400 => 38400
  | .b57600 => 57600
  | .b115200 => 115200
  | .b230400 => 230400
  | .b460800 => 460800
  | .b921600 => 921600

def all : List BaudRate :=
  [.b1200, .b2400, .b4800, .b9600, .b19200, .b38400, .b57600, .b115200, .b230400, .b460800,
    .b921600]

/-- The speed as terminal settings name it. -/
def name (b : BaudRate) : String := "B" ++ Text.Decimal.text b.bits

/-- The speed of a line that nobody has set. -/
def initial : BaudRate := .b38400

/-- The speed of so many bits per second, if lines have it. -/
def ofRate (rate : Nat) : Except Fault BaudRate :=
  match all.find? fun b => b.bits == rate with
  | some b => .ok b
  | none => .error (.invalidArgument (.unsupportedBaudRate rate))

end BaudRate

end GuestWatch
