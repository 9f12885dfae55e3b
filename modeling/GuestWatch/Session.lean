import GuestWatch.Interruption
import GuestWatch.Options.Overlay
import GuestWatch.Options.Parser

/-! # Sessions

From a command line to an exit code. A command line or configuration that is refused costs nothing
but a complaint: no guest is started and no report is written. A run shows its lines on the output
unless they are unwanted or the report takes their place, and the report is also handed out to be
written to a file if one is named.
-/
namespace GuestWatch

/-- What a session is held in. `shownTime` is the time that reports give for the time a run took,
and `clock` what the clock shows when the guest has been started. -/
structure Session where
  environment : Environment
  interruption : Interruption
  shownTime : UInt64 → UInt64
  clock : Nat

namespace Session

/-- What a session leaves: the exit code, both outputs, and a file to be written. -/
structure Outcome where
  exitCode : Nat
  output : String
  complaint : String
  file : Option (Path × String)
deriving DecidableEq, Repr

/-- The exit code of a session that is refused. -/
def refusedCode : Nat := 64

/-- The exit code of a session whose deadline is beyond the clock. -/
def brokenCode : Nat := 101

/-- A command line that leads to no run. -/
def declined (f : Usage.Fault) : Outcome :=
  if f.isAnswer then ⟨0, f.message, "", none⟩
  else ⟨refusedCode, "", f.said ++ "\n", none⟩

/-- A configuration that leads to no run. -/
def refused (f : Fault) : Outcome :=
  ⟨refusedCode, "", Usage.programName ++ ": " ++ f.message ++ "\n", none⟩

/-- What a report leaves. -/
def reported (s : Settings) (r : Report) : Outcome where
  exitCode := r.exitCode
  output := if s.json then r.text ++ "\n" else ""
  complaint := ""
  file := s.report.map fun path => (path, r.text)

/-- The end of a run whose deadline is beyond the clock. -/
def broken : Outcome := ⟨brokenCode, "", "", none⟩

/-- What is left when something has been shown before. -/
def Outcome.after (left : Outcome) (shown : String) : Outcome :=
  { left with output := shown ++ left.output }

/-- The interruption of a run. One that waits for a line never comes when no line is shown. -/
def interruptionFor (s : Session) (o : Settings) : Interruption :=
  if s.interruption = .afterFirstLine ∧ !o.echo then .never else s.interruption

/-- Runs the guest that the options name. -/
def launch (s : Session) (o : Options) (c : Config) (m : Markers) : Option Outcome :=
  let i := s.interruptionFor o.toSettings
  ((Guest.select o.guest).run? s.environment c m i s.clock o.echo).map fun outcome =>
    match outcome.report with
    | none => broken.after outcome.shown
    | some r =>
      (reported o.toSettings { r with elapsedMs := s.shownTime r.elapsedMs }).after outcome.shown

/-- A session with a command line, of which the program's name is given apart. -/
def run? (s : Session) (calledAs : String) (args : List Options.Arg) : Option Outcome :=
  match Options.ofArgs calledAs args with
  | .error f => some (declined f)
  | .ok o =>
    match o.configuration s.environment.readText with
    | .error f => some (refused f)
    | .ok c =>
      match Markers.ofConfig c.markers with
      | .error f => some (refused f)
      | .ok m => s.launch o c m

end Session

end GuestWatch
