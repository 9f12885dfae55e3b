import GuestWatch.Emulator
import GuestWatch.Run
import GuestWatch.SerialLine

/-! # Backends

A guest with the means to reach it. Both kinds obey the same three operations: a reader is there
from a successful start until the next stop.
-/
namespace GuestWatch

inductive Backend
  | emulator (g : Emulator)
  | serialLine (g : SerialLine)
deriving DecidableEq, Repr

namespace Backend

/-- The backend of a guest. -/
def ofGuest (c : Config) : Guest → Backend
  | .emulated => .emulator (.ofConfig c.emulator)
  | .serial device => .serialLine (.ofDevice (.ofText device) c.serial)

def kind : Backend → BackendKind
  | .emulator _ => .emulator
  | .serialLine _ => .serialLine

def reader? : Backend → Option LineReader
  | .emulator g => g.reader
  | .serialLine g => g.reader

def start (env : Environment) : Backend → Except Fault Unit × Backend
  | .emulator g => let (answer, g) := g.start env; (answer, .emulator g)
  | .serialLine g => let (answer, g) := g.start env; (answer, .serialLine g)

def read (b : Backend) (wait : Nat) : Reading × Nat × Backend :=
  match b with
  | .emulator g => let (answer, took, g) := g.read wait; (answer, took, .emulator g)
  | .serialLine g => let (answer, took, g) := g.read wait; (answer, took, .serialLine g)

def stop : Backend → Except Fault Unit × Backend
  | .emulator g => let (answer, _, g) := g.stop; (answer, .emulator g)
  | .serialLine g => let (answer, g) := g.stop; (answer, .serialLine g)

/-- The operations of a backend in its surroundings. -/
def operations (env : Environment) : Operations Backend where
  start := start env
  read := read
  stop := stop

/-- Octets that arrive on a serial line. -/
def receive (data : List UInt8) : Backend → Backend
  | .emulator g => .emulator g
  | .serialLine g => .serialLine (g.receive data)

/-- The speed of a serial line. -/
def speed? : Backend → Option BaudRate
  | .emulator _ => none
  | .serialLine g => some g.speed

/-- The stream that a start would open, if it would succeed. -/
def console? (env : Environment) (b : Backend) : Option Stream :=
  match b.start env with
  | (.ok (), b) => b.reader?.map (·.source)
  | (.error _, _) => none

/-- A bound on the reads that do not wait in vain after a start. -/
def answers (env : Environment) (b : Backend) : Nat :=
  ((b.start env).2.reader?.map (·.answers)).getD 0

/-- Runs a guest with its backend. -/
def run? (env : Environment) (p : Run.Plan) (guest : String) (b : Backend) :
    Option (Run.Outcome Backend) :=
  Run.run? (operations env) p guest b (p.turns (b.answers env))

end Backend

end GuestWatch
