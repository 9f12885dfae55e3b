/-! # Child processes

A child is known by when it will exit by itself and by how it takes the signal that asks it to
exit: it does so after a delay, or it has become deaf to the signal. It is asked first and killed
only when it has not exited within a grace period. An exit at the very end of that period counts.
-/
namespace GuestWatch

inductive Signal
  | term
  | kill
deriving DecidableEq, Repr

/-- A child process. Times count from now on; `waitFault` is what waiting for it fails with. -/
structure Child where
  exitsIn : Option Nat
  termDelay : Nat
  deafIn : Option Nat
  waitFault : Option String
  reaped : Bool
deriving DecidableEq, Repr

namespace Child

/-- The child when some time has passed. -/
def pass (c : Child) (ms : Nat) : Child :=
  { c with exitsIn := c.exitsIn.map (· - ms), deafIn := c.deafIn.map (· - ms) }

def hasExited (c : Child) : Bool := c.exitsIn == some 0

def isDeaf (c : Child) : Bool := c.deafIn == some 0

/-- What a signal does to the child. -/
def receive (c : Child) : Signal → Child
  | .kill => { c with exitsIn := some 0 }
  | .term =>
    if c.isDeaf then c
    else { c with exitsIn := some (min c.termDelay (c.exitsIn.getD c.termDelay)) }

def reap (c : Child) : Child := { c with reaped := true }

/-- How a child was ended: the signals sent to it, the time it took, and the child after it. -/
structure Termination where
  answer : Except String Unit
  signals : List Signal
  took : Nat
  child : Child

/-- Ends a child, with so much time for an exit of its own. -/
def terminate (c : Child) (grace : Nat) : Termination :=
  match c.waitFault with
  | some reason => ⟨.error reason, [], 0, c⟩
  | none =>
    if c.hasExited then ⟨.ok (), [], 0, c.reap⟩
    else
      let asked := c.receive .term
      match asked.exitsIn.filter (· ≤ grace) with
      | some ms => ⟨.ok (), [.term], ms, (asked.pass ms).reap⟩
      | none => ⟨.ok (), [.term, .kill], grace, ((asked.pass grace).receive .kill).reap⟩

end Child

end GuestWatch
