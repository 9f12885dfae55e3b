import GuestWatch.Config
import GuestWatch.Text.Blank

/-! # Lines that decide a run

A line decides the run if, without blanks at its ends, it is a marker, matches the expected
pattern, or belongs to the test runner's own protocol: the banner of a complete success, the
banner of a kernel panic, or a tally of fewer tests passed than run. Fail markers come first.
-/
namespace GuestWatch

/-- A line without blanks at either end. -/
def normalize (line : String) : String := String.ofList (Text.trim line.toList)

/-- Why a line fails the run. -/
inductive Reason
  | marker (line : String)
  | kernelPanic
  | tally (passed total : Nat)
deriving DecidableEq, Repr

def Reason.message : Reason → String
  | .marker line => "fail marker " ++ Text.Quoted.quote line
  | .kernelPanic => "kernel panic"
  | .tally passed total =>
    Text.Decimal.text passed ++ "/" ++ Text.Decimal.text total ++ " tests passed"

inductive Verdict
  | pass
  | fail (why : Reason)
deriving DecidableEq, Repr

/-! ## The runner's protocol -/

namespace Runner

def allPassedBanner : String := "[runner] ** ALL TESTS PASSED **"

def panicBanner : String := "****************PANIC****************"

def tallyStart : String := "[runner] Run complete: "

def tallyEnd : String := " passed"

/-- Whether a text occurs in another. -/
def occursIn (part : List Char) : List Char → Bool
  | [] => part.isEmpty
  | c :: rest => part.isPrefixOf (c :: rest) || occursIn part rest

/-- What follows a given beginning. -/
def after? (start text : List Char) : Option (List Char) :=
  if start.isPrefixOf text then some (text.drop start.length) else none

/-- What comes before a given end. -/
def before? (stop text : List Char) : Option (List Char) :=
  (after? stop.reverse text.reverse).map List.reverse

/-- A count between blanks. -/
def count? (text : List Char) : Option Nat :=
  (Text.Decimal.readUnsigned Text.Decimal.max64 (Text.trim text)).toOption

/-- The two counts of a tally. -/
def tally? (line : List Char) : Option (Nat × Nat) := do
  let rest ← after? tallyStart.toList line
  let counts ← before? tallyEnd.toList rest
  if counts.contains '/' then
    let passed ← count? (counts.takeWhile (· ≠ '/'))
    let total ← count? ((counts.dropWhile (· ≠ '/')).drop 1)
    return (passed, total)
  else none

/-- What the protocol says about a line without blanks at its ends. A tally of a complete success
says nothing: the banner follows it. -/
def verdict? (line : String) : Option Verdict :=
  if line = allPassedBanner then some .pass
  else if occursIn panicBanner.toList line.toList then some (.fail .kernelPanic)
  else match tally? line.toList with
    | some (passed, total) =>
      if passed < total then some (.fail (.tally passed total)) else none
    | none => none

end Runner

/-! ## Markers -/

/-- The lines that decide a run, without blanks at their ends. -/
structure Markers where
  pass : List String
  fail : List String
  expect : Option Pattern
  runnerProtocol : Bool

namespace Markers

/-- The expected pattern of a text. -/
def expectPattern (source : String) : Except Fault Pattern :=
  match Pattern.ofText source with
  | .ok p => .ok p
  | .error r => .error (.invalidArgument (.badPattern source r))

/-- The optional pattern of an optional text. -/
def expectPattern? : Option String → Except Fault (Option Pattern)
  | none => .ok none
  | some source => (expectPattern source).map some

def ofConfig (c : MarkerConfig) : Except Fault Markers :=
  (expectPattern? c.expect).map fun expect =>
    ⟨c.pass.map normalize, c.fail.map normalize, expect, c.runnerProtocol⟩

/-- The markers of the default configuration. -/
def default : Markers :=
  let c : MarkerConfig := {}
  ⟨c.pass.map normalize, c.fail.map normalize, none, c.runnerProtocol⟩

/-- What a line without blanks at its ends decides. -/
def verdict? (m : Markers) (line : String) : Option Verdict :=
  if line = "" then none
  else if m.fail.contains line then some (.fail (.marker line))
  else if m.pass.contains line then some .pass
  else if m.expect.any (·.isIn line) then some .pass
  else if m.runnerProtocol then Runner.verdict? line
  else none

/-- What a line decides. -/
def classify (m : Markers) (line : String) : Option Verdict := m.verdict? (normalize line)

end Markers

end GuestWatch
