/-! # Streams of octets in time

What a source of octets does, event after event. Time is counted in milliseconds and passes only
in delays; after the last event the source is at its end, however often it is asked.
-/
namespace GuestWatch

inductive Event
  | bytes (data : List UInt8)
  | delay (ms : Nat)
  | failure (reason : String)
  | ending
  | hang
deriving DecidableEq, Repr

abbrev Stream := List Event

namespace Stream

/-- All octets of a stream, without regard to when they arrive. -/
def octets (s : Stream) : List UInt8 :=
  s.flatMap fun e => match e with
    | .bytes data => data
    | _ => []

/-- The sum of all delays. -/
def totalDelay : Stream → Nat
  | [] => 0
  | .delay ms :: rest => ms + totalDelay rest
  | _ :: rest => totalDelay rest

/-- A bound on the number of lines, faults and ends that reading can give. -/
def answers (s : Stream) : Nat := s.octets.length + s.length

end Stream

end GuestWatch
