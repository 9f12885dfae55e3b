import GuestWatch.BaudRate
import GuestWatch.Child
import GuestWatch.Stream

/-! # The surroundings of a run

What a run asks of the system it runs on, with the system's own words where it refuses.
-/
namespace GuestWatch

/-- A program that has been started: the process, and what it writes on its console. -/
structure Spawned where
  child : Child
  console : Stream
deriving DecidableEq, Repr

/-- The answers of a system. `findProgram` looks a program up by its name or path, `spawn` starts
it with arguments, and `openLine` opens a terminal at a speed and drops what it has received
before. -/
structure Environment where
  readText : Path → Except String String
  isPresent : Path → Bool
  findProgram : String → Option Path
  spawn : Path → List String → Except String Spawned
  openLine : Path → BaudRate → Except String Stream

end GuestWatch
