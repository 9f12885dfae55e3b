import GuestWatch.Config
import GuestWatch.Environment
import GuestWatch.LineReader

/-! # Guests on a serial line

The device must be there before its speed is looked at, and the speed must exist before the device
is opened. The line keeps its speed after it is closed.
-/
namespace GuestWatch

structure SerialLine where
  device : Path
  rate : UInt32
  reader : Option LineReader
  speed : BaudRate
deriving DecidableEq, Repr

namespace SerialLine

def ofDevice (device : Path) (c : SerialConfig) : SerialLine :=
  ⟨device, c.baudRate, none, .initial⟩

/-- Opens the device: the speed it is set to, and what it receives from then on. -/
def connect (env : Environment) (g : SerialLine) : Except Fault (BaudRate × Stream) :=
  if !env.isPresent g.device then .error (.deviceNotFound g.device)
  else do
    let speed ← BaudRate.ofRate g.rate.toNat
    match env.openLine g.device speed with
    | .ok input => .ok (speed, input)
    | .error reason => .error (.startFailed .serialLine (g.device.shown ++ ": " ++ reason))

def start (env : Environment) (g : SerialLine) : Except Fault Unit × SerialLine :=
  match g.connect env with
  | .error f => (.error f, g)
  | .ok (speed, input) => (.ok (), { g with reader := some (.ofStream input), speed })

def read (g : SerialLine) (wait : Nat) : Reading × Nat × SerialLine :=
  match g.reader with
  | none => (.error .streamClosed, 0, g)
  | some r =>
    let (answer, took, r) := r.nextLine wait
    (answer, took, { g with reader := some r })

def stop (g : SerialLine) : Except Fault Unit × SerialLine := (.ok (), { g with reader := none })

/-- Octets that arrive on the line. When nobody reads they are lost. -/
def receive (g : SerialLine) (data : List UInt8) : SerialLine :=
  { g with reader := g.reader.map (·.receive data) }

end SerialLine

end GuestWatch
