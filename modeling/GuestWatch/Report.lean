import GuestWatch.Json.Printer
import GuestWatch.Status

/-! # Reports

What is known after a run. The written form leaves out the stages.
-/
namespace GuestWatch

structure Report where
  guest : String
  status : Status
  message : Option String
  output : List String
  elapsedMs : UInt64
  stages : List Stage
deriving DecidableEq, Repr

namespace Report

/-- A report that knows of no stage but the last. -/
def ofOutcome (guest : String) (status : Status) (message : Option String)
    (output : List String) (elapsedMs : UInt64) : Report :=
  ⟨guest, status, message, output, elapsedMs, [.finished status]⟩

def withStages (r : Report) (stages : List Stage) : Report := { r with stages }

def exitCode (r : Report) : Nat := r.status.exitCode

def passed (r : Report) : Bool := r.status == .passed

/-- The written form of a report as a JSON value. -/
def toValue (r : Report) : Json.Value :=
  .object [
    ("guest", .text r.guest),
    ("status", .text r.status.key),
    ("exit_code", .natural r.exitCode),
    ("message", .ofText? r.message),
    ("output", .texts r.output),
    ("elapsed_ms", .natural r.elapsedMs.toNat)]

/-- The written form of a report. -/
def text (r : Report) : String := r.toValue.pretty

end Report

end GuestWatch
