import GuestWatch.LineReader
import GuestWatch.Markers
import GuestWatch.Report

/-! # Runs

A run starts a guest, reads its lines until one of them decides, and stops it. Time is counted
from the start; what the clock shows then matters only because the deadline may be more than it can
tell. Before each read the deadline is looked at first, then a cancellation; a cancellation that
comes while a read waits, or at the instant it is answered, ends the run too, and that read is
abandoned. A line that is read may be shown, before it is known whether it decides. Whatever ends
the run, a guest that was started is stopped once.
-/
namespace GuestWatch

/-- What a run does with a guest: each operation answers and leaves the guest in a new state. A
read is given the longest wait and says how long it took. -/
structure Operations (σ : Type) where
  start : σ → Except Fault Unit × σ
  read : σ → Nat → Reading × Nat × σ
  stop : σ → Except Fault Unit × σ

namespace Run

/-- What a run is to obey. `clock` is what the clock shows when the guest has been started, and
`echo` says whether lines are shown. -/
structure Plan where
  timeoutMs : Nat
  lineTimeoutMs : Nat
  markers : Markers
  cancelAt : Option Nat
  clock : Nat
  echo : Bool

/-- The plan of a run under a configuration whose markers have been read. -/
def Plan.ofConfig (c : Config) (m : Markers) (cancelAt : Option Nat) (clock : Nat) (echo : Bool) :
    Plan :=
  ⟨c.timeoutMs, c.lineTimeoutMs.toNat, m, cancelAt, clock, echo⟩

/-- How the watch over a started guest ends. -/
inductive Ending
  | decided (v : Verdict)
  | fault (f : Fault)
  | interrupted
deriving DecidableEq, Repr

namespace Ending

def status : Ending → Status
  | .decided .pass => .passed
  | .decided (.fail _) => .failed
  | .fault f => f.status
  | .interrupted => .backendError

def message : Ending → Option String
  | .decided .pass => none
  | .decided (.fail why) => some why.message
  | .fault f => some f.message
  | .interrupted => some "run interrupted"

end Ending

/-- An operation that a run has asked for. -/
inductive Call
  | start
  | read (wait : Nat) (abandoned : Bool)
  | stop
deriving DecidableEq, Repr

/-- A watch under way: the time, the guest, what has been called and read, latest first, and what
has been shown. -/
structure Watch (σ : Type) where
  now : Nat
  guest : σ
  calls : List Call
  output : List String
  shown : String

/-- Whether a cancellation has come by a time. -/
def Plan.cancelledBy (p : Plan) (time : Nat) : Bool := p.cancelAt.any (· ≤ time)

/-- The longest that a read may wait at a time before the deadline. -/
def Plan.waitAt (p : Plan) (now : Nat) : Nat := min p.lineTimeoutMs (p.timeoutMs - now)

/-- What is shown of a line. -/
def Plan.shows (p : Plan) (line : String) : String := if p.echo then line ++ "\n" else ""

/-- What an answered read leads to: the watch after it, and its ending if it is one. -/
def absorb {σ : Type} (p : Plan) (w : Watch σ) : Reading → Watch σ × Option Ending
  | .error f => (w, some (.fault f))
  | .ok none => (w, none)
  | .ok (some line) =>
    ({ w with shown := w.shown ++ p.shows line, output := line :: w.output },
      (p.markers.classify line).map .decided)

/-- One turn of the watch. -/
def turn {σ : Type} (ops : Operations σ) (p : Plan) (w : Watch σ) : Watch σ × Option Ending :=
  if p.timeoutMs ≤ w.now then (w, some (.fault (.timedOut p.timeoutMs)))
  else if p.cancelledBy w.now then (w, some .interrupted)
  else
    let wait := p.waitAt w.now
    let (answer, took, guest) := ops.read w.guest wait
    if p.cancelledBy (w.now + took) then
      ({ w with now := p.cancelAt.getD w.now, calls := .read wait true :: w.calls },
        some .interrupted)
    else
      absorb p { w with now := w.now + took, guest, calls := .read wait false :: w.calls } answer

/-- Turns until the watch ends, at most `fuel` of them. -/
def watch {σ : Type} (ops : Operations σ) (p : Plan) (w : Watch σ) :
    Nat → Option (Watch σ × Ending)
  | 0 => none
  | fuel + 1 =>
    match turn ops p w with
    | (w, some ending) => some (w, ending)
    | (w, none) => watch ops p w fuel

/-- The time that the clock never comes to show: it counts seconds in 63 bits. -/
def clockEnd : Nat := 1000 * Nat.pow 2 63

/-- Whether the clock can tell the deadline. -/
def Plan.deadlineFits (p : Plan) : Bool := p.clock + p.timeoutMs < clockEnd

/-- What a run leaves: a report, unless the deadline was beyond the clock; all calls in order; the
guest; and what has been shown. -/
structure Outcome (σ : Type) where
  report : Option Report
  calls : List Call
  guest : σ
  shown : String

/-- The report of a guest that could not be started. -/
def unstarted (guest : String) (f : Fault) : Report :=
  (Report.ofOutcome guest f.status (some f.message) [] 0).withStages
    [.notStarted, .finished f.status]

/-- The report of a watch that has ended. -/
def finished {σ : Type} (guest : String) (w : Watch σ) (e : Ending) : Report :=
  (Report.ofOutcome guest e.status e.message w.output.reverse (.ofNat w.now)).withStages
    [.notStarted, .running, .finished e.status]

/-- Runs a guest; nothing if the watch takes more than `fuel` turns. -/
def run? {σ : Type} (ops : Operations σ) (p : Plan) (guest : String) (s : σ) (fuel : Nat) :
    Option (Outcome σ) :=
  match ops.start s with
  | (.error f, s) => some ⟨some (unstarted guest f), [.start], s, ""⟩
  | (.ok (), s) =>
    if ¬ p.deadlineFits then some ⟨none, [.start], s, ""⟩
    else
      (watch ops p ⟨0, s, [.start], [], ""⟩ fuel).map fun (w, e) =>
        ⟨some (finished guest w e), (.stop :: w.calls).reverse, (ops.stop w.guest).2, w.shown⟩

/-- Turns that suffice when at most `answers` reads do not wait in vain. -/
def Plan.turns (p : Plan) (answers : Nat) : Nat :=
  answers + p.timeoutMs / max 1 p.lineTimeoutMs + 3

end Run

end GuestWatch
