/-! # Outcomes and stages of a run
-/
namespace GuestWatch

/-- How a run ended. -/
inductive Status
  | passed
  | failed
  | timedOut
  | backendError
deriving DecidableEq, Repr

namespace Status

def exitCode : Status → Nat
  | .passed => 0
  | .failed => 1
  | .timedOut => 2
  | .backendError => 3

/-- The outcome in words. -/
def label : Status → String
  | .passed => "passed"
  | .failed => "failed"
  | .timedOut => "timed out"
  | .backendError => "backend error"

/-- The outcome as reports name it. -/
def key : Status → String
  | .passed => "passed"
  | .failed => "failed"
  | .timedOut => "timed_out"
  | .backendError => "backend_error"

end Status

/-- The stages a run goes through. -/
inductive Stage
  | notStarted
  | running
  | finished (s : Status)
deriving DecidableEq, Repr

namespace Stage

def isFinal : Stage → Bool
  | .finished _ => true
  | _ => false

def label : Stage → String
  | .notStarted => "not started"
  | .running => "running"
  | .finished s => "finished: " ++ s.label

end Stage

end GuestWatch
