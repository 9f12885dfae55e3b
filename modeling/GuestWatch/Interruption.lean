import GuestWatch.Backend

/-! # Interruptions

A run can be interrupted at a given time, a moment after its guest has fallen silent, or a moment
after its guest's first line. An interruption comes after what arrives at the same moment.
-/
namespace GuestWatch

inductive Interruption
  | never
  | atTime (ms : Nat)
  | whenSilent
  | afterFirstLine
deriving DecidableEq, Repr

namespace Interruption

/-- The time of the first line on a stream, or of its end if no line comes. -/
def firstLineAt (s : Stream) : Nat := ((LineReader.ofStream s).nextLine (s.totalDelay + 1)).2.1

/-- The time at which a run with a console is interrupted, if it is. -/
def time? (console : Stream) : Interruption → Option Nat
  | .never => none
  | .atTime ms => some ms
  | .whenSilent => some (console.totalDelay + 1)
  | .afterFirstLine => some (firstLineAt console + 1)

end Interruption

/-- Runs a guest under a configuration whose markers have been read. -/
def Guest.run? (env : Environment) (c : Config) (m : Markers) (i : Interruption) (clock : Nat)
    (echo : Bool) (g : Guest) : Option (Run.Outcome Backend) :=
  let b := Backend.ofGuest c g
  b.run? env (.ofConfig c m (i.time? ((b.console? env).getD [])) clock echo) g.name

end GuestWatch
