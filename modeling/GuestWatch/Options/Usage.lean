import GuestWatch.Options
import GuestWatch.Text.Decimal
import GuestWatch.Text.Plain

/-! # Help and usage faults

The help text is laid out from the tables of options. A command line that cannot be accepted has
one line that says why.
-/
namespace GuestWatch.Usage

def programName : String := "test-host"

/-- The name a program is called by: that of its file, where this is text. -/
def calledAs (program : Path) : String :=
  (program.lastName?.bind Text.Utf8.decode?).getD programName

def versionText : String := programName ++ " 0.1.0\n"

def about : String := "Swink Test Host: run tests on QEMU or on a physical guest over UART"

def guestName : String := "<T>"

def guestAbout : String :=
  "The type of the guest to run. For QEMU guests, enter 'qemu'. For physical guests, enter " ++
    "the path to the UART serial device"

/-- The names of an option in the help text. -/
def nameColumn (short : Option Char) (shown : String) : String :=
  match short with
  | some c => "  -" ++ String.singleton c ++ ", " ++ shown
  | none => "      " ++ shown

/-- The rows of the help text: names, and what they do. -/
def rows : List (String × String) :=
  let key := fun (k : OptionKey) => (nameColumn k.short? k.shown, k.about)
  let switch := fun (s : Switch) => (nameColumn s.short? s.shown, s.about)
  [.config, .kernel, .timeout, .lineTimeout, .emulator, .machine, .baud, .passMarker, .expect,
    .failMarker].map key ++ [.quiet, .json].map switch ++ [key .report] ++
    [.help, .version].map switch

/-- The width of the widest name column. -/
def width : Nat := (rows.map fun r => r.1.length).foldl max 0

def row (r : String × String) : String :=
  r.1 ++ String.ofList (List.replicate (width - r.1.length + 2) ' ') ++ r.2 ++ "\n"

/-- The help text, for a program called by a name. -/
def helpText (calledAs : String) : String :=
  about ++ "\n\nUsage: " ++ Text.Plain.ofText calledAs ++ " [OPTIONS] " ++ guestName ++
    "\n\nArguments:\n  " ++ guestName ++ "  " ++ guestAbout ++
    "\n\nOptions:\n" ++ String.join (rows.map row)

/-- Why a command line does not lead to a run. Help and version are asked for. -/
inductive Fault
  | help (text : String)
  | version
  | unknownArgument (shown : String)
  | needlessValue (value shown : String)
  | missingValue (k : OptionKey)
  | repeated (shown : String)
  | badValue (value : String) (k : OptionKey) (reason : String)
  | notText
  | missingGuest
deriving DecidableEq, Repr

namespace Fault

/-- The message. What it repeats from the command line is in plain text. -/
def message : Fault → String
  | .help text => text
  | .version => versionText
  | .unknownArgument shown => "error: unexpected argument '" ++ Text.Plain.ofText shown ++ "' found"
  | .needlessValue value shown =>
    "error: unexpected value '" ++ Text.Plain.ofText value ++ "' for '" ++ shown ++
      "' found; no more were expected"
  | .missingValue k =>
    "error: a value is required for '" ++ k.shown ++ "' but none was supplied"
  | .repeated shown => "error: the argument '" ++ shown ++ "' cannot be used multiple times"
  | .badValue value k reason =>
    "error: invalid value '" ++ Text.Plain.ofText value ++ "' for '" ++ k.shown ++ "': " ++ reason
  | .notText => "error: invalid UTF-8 was detected in one or more arguments"
  | .missingGuest => "error: the following required arguments were not provided:"

/-- Whether the message answers a question, and is no complaint. -/
def isAnswer : Fault → Bool
  | .help _ | .version => true
  | _ => false

/-- The first line of a text, without a carriage return before the line feed. -/
def firstLine (text : List Char) : List Char :=
  let line := text.takeWhile (· ≠ '\n')
  if line.length < text.length ∧ line.getLast? = some '\r' then line.dropLast else line

/-- What is said about the command line: an answer whole, a complaint in one line. -/
def said (f : Fault) : String :=
  if f.isAnswer then f.message else String.ofList (firstLine f.message.toList)

end Fault

end GuestWatch.Usage
