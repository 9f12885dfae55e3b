import GuestWatch.Fault
import GuestWatch.Stream
import GuestWatch.Text.Blank

/-! # Lines from a stream

A reader cuts a stream into lines after each line feed. Octets of a line that is not finished are
kept when a read times out or fails. An end of file that comes after octets of the same read
finishes the line only; one that comes first in its read closes the reader, after the octets kept
from earlier reads have been given as a last line.
-/
namespace GuestWatch

/-- What a read gives: a line, nothing in time, or a fault. -/
abbrev Reading := Except Fault (Option String)

structure LineReader where
  source : Stream
  pending : List UInt8
  closed : Bool
deriving DecidableEq, Repr

def lineFeed : UInt8 := 0x0A

/-- The text of a line's octets: without the line feed, and without carriage returns at its
ends. -/
def lineText (bytes : List UInt8) : String :=
  let cs := Text.Utf8.decodeChars bytes
  let cut := Text.dropTail (fun c => c == '\n' || c == '\r') cs
  String.ofList (cut.dropWhile (· == '\r'))

namespace LineReader

def ofStream (source : Stream) : LineReader := ⟨source, [], false⟩

/-- Cuts octets after the first line feed, if there is one. -/
def cut? : List UInt8 → Option (List UInt8 × List UInt8)
  | [] => none
  | b :: bytes =>
    if b = lineFeed then some ([b], bytes)
    else (cut? bytes).map fun (line, rest) => (b :: line, rest)

/-- What a read gives, how long it takes, and the reader after it. -/
abbrev Answer := Reading × Nat × LineReader

/-- Reads on when `took` has passed since the read began, with `budget` left; `got` says whether it
has obtained octets. -/
def readOn (pending : List UInt8) (got : Bool) (took budget : Nat) : Stream → Answer
  | [] =>
    if got then (.ok (some (lineText pending)), took, ⟨[], [], false⟩)
    else if pending.isEmpty then (.error .streamClosed, took, ⟨[], [], true⟩)
    else (.ok (some (lineText pending)), took, ⟨[], [], true⟩)
  | .bytes data :: rest =>
    match cut? data with
    | some (line, []) => (.ok (some (lineText (pending ++ line))), took, ⟨rest, [], false⟩)
    | some (line, more) =>
      (.ok (some (lineText (pending ++ line))), took, ⟨.bytes more :: rest, [], false⟩)
    | none => readOn (pending ++ data) (got || !data.isEmpty) took budget rest
  | .delay ms :: rest =>
    if ms ≤ budget then readOn pending got (took + ms) (budget - ms) rest
    else (.ok none, took + budget, ⟨.delay (ms - budget) :: rest, pending, false⟩)
  | .failure reason :: rest => (.error (.readFailed reason), took, ⟨rest, pending, false⟩)
  | .ending :: rest =>
    if got then (.ok (some (lineText pending)), took, ⟨rest, [], false⟩)
    else if pending.isEmpty then (.error .streamClosed, took, ⟨rest, [], true⟩)
    else (.ok (some (lineText pending)), took, ⟨rest, [], true⟩)
  | .hang :: rest => (.ok none, took + budget, ⟨.hang :: rest, pending, false⟩)

/-- The next line, if it comes in time. A closed reader takes nothing from its source. -/
def nextLine (r : LineReader) (timeout : Nat) : Answer :=
  if r.closed then (.error .streamClosed, 0, r)
  else readOn r.pending false 0 timeout r.source

/-- Adds octets to a source that is silent at its end. -/
def receive (data : List UInt8) (r : LineReader) : LineReader :=
  match r.source.getLast? with
  | some .hang => { r with source := r.source.dropLast ++ [.bytes data, .hang] }
  | _ => { r with source := r.source ++ [.bytes data] }

/-- A bound on the reads that do not wait in vain. -/
def answers (r : LineReader) : Nat := r.source.answers + 2

end LineReader

end GuestWatch
