import GuestWatch.Environment
import GuestWatch.Text.Utf8

/-! # Programs that act out a list

What such a program writes on its console, how long it lives, and from when it is deaf to the
signal that asks it to exit, are read off the list. It exits when nothing is left to do.
-/
namespace GuestWatch

inductive Act
  | write (data : List UInt8)
  | writeArguments
  | complain (data : List UInt8)
  | sleep (ms : Nat)
  | exit (code : Nat)
  | hang
  | ignoreTerm
deriving DecidableEq, Repr

abbrev Program := List Act

namespace Program

/-- Arguments, one on each line. -/
def argumentLines (args : List String) : List UInt8 :=
  args.flatMap fun a => Text.Utf8.encode (a ++ "\n")

/-- What the program writes on its console when it is given arguments. -/
def console (args : List String) : Program → Stream
  | [] => []
  | .write data :: rest => .bytes data :: console args rest
  | .writeArguments :: rest => .bytes (argumentLines args) :: console args rest
  | .complain _ :: rest => console args rest
  | .sleep ms :: rest => .delay ms :: console args rest
  | .exit _ :: _ => []
  | .hang :: _ => [.hang]
  | .ignoreTerm :: rest => console args rest

/-- The time until the program exits, if it does. -/
def lifetime? : Program → Option Nat
  | [] => some 0
  | .sleep ms :: rest => (lifetime? rest).map (ms + ·)
  | .exit _ :: _ => some 0
  | .hang :: _ => none
  | .write _ :: rest | .writeArguments :: rest | .complain _ :: rest | .ignoreTerm :: rest =>
    lifetime? rest

/-- The time until the program becomes deaf, if it does. -/
def deafIn? : Program → Option Nat
  | [] => none
  | .ignoreTerm :: _ => some 0
  | .sleep ms :: rest => (deafIn? rest).map (ms + ·)
  | .exit _ :: _ | .hang :: _ => none
  | .write _ :: rest | .writeArguments :: rest | .complain _ :: rest => deafIn? rest

/-- The program once it has been started. -/
def started (p : Program) (args : List String) : Spawned where
  child := ⟨p.lifetime?, 0, p.deafIn?, none, false⟩
  console := p.console args

end Program

end GuestWatch
