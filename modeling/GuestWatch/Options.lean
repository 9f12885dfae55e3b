import GuestWatch.Path

/-! # Command-line options

What a command line can say, and under which names. Options take a value each; switches take none.
Two of the options may be repeated, all else is given once at most.
-/
namespace GuestWatch

/-- What a command line says besides the guest. -/
structure Settings where
  config : Option Path := none
  kernel : Option Path := none
  timeout : Option UInt64 := none
  lineTimeout : Option UInt64 := none
  emulator : Option String := none
  machine : Option String := none
  baud : Option UInt32 := none
  passMarkers : List String := []
  expect : Option String := none
  failMarkers : List String := []
  quiet : Bool := false
  json : Bool := false
  report : Option Path := none
deriving DecidableEq, Repr

structure Options extends Settings where
  guest : String
deriving DecidableEq, Repr

/-- Guest lines are shown unless they are unwanted or a report takes their place. -/
def Settings.echo (s : Settings) : Bool := !s.quiet && !s.json

inductive OptionKey
  | config | kernel | timeout | lineTimeout | emulator | machine | baud | passMarker | expect
  | failMarker | report
deriving DecidableEq, Repr

inductive Switch
  | quiet | json | help | version
deriving DecidableEq, Repr

namespace OptionKey

def all : List OptionKey :=
  [.config, .kernel, .timeout, .lineTimeout, .emulator, .machine, .baud, .passMarker, .expect,
    .failMarker, .report]

def long : OptionKey → String
  | .config => "config"
  | .kernel => "kernel"
  | .timeout => "timeout"
  | .lineTimeout => "line-timeout"
  | .emulator => "qemu"
  | .machine => "machine"
  | .baud => "baud"
  | .passMarker => "pass-marker"
  | .expect => "expect"
  | .failMarker => "fail-marker"
  | .report => "report"

def short? : OptionKey → Option Char
  | .config => some 'c'
  | .kernel => some 'k'
  | .timeout => some 't'
  | .expect => some 'e'
  | _ => none

/-- What stands for the value in messages. -/
def valueName : OptionKey → String
  | .config => "CONFIG"
  | .kernel => "KERNEL"
  | .timeout => "TIMEOUT"
  | .lineTimeout => "MS"
  | .emulator => "BIN"
  | .machine => "MACHINE"
  | .baud => "BAUD"
  | .passMarker => "LINE"
  | .expect => "REGEX"
  | .failMarker => "LINE"
  | .report => "PATH"

def about : OptionKey → String
  | .config => "JSON configuration file"
  | .kernel => "Path to the kernel image to boot under QEMU"
  | .timeout => "Overall timeout in seconds"
  | .lineTimeout => "Longest a single read may block, in milliseconds"
  | .emulator => "Emulator executable"
  | .machine => "Emulated machine"
  | .baud => "UART baud rate"
  | .passMarker => "Extra line that ends the run as passed"
  | .expect => "Expected serial output pattern (regex); a matching line passes the run"
  | .failMarker => "Extra line that ends the run as failed"
  | .report => "Also write the run result as JSON to this file"

/-- The option as messages show it. -/
def shown (k : OptionKey) : String := "--" ++ k.long ++ " <" ++ k.valueName ++ ">"

end OptionKey

namespace Switch

def all : List Switch := [.quiet, .json, .help, .version]

def long : Switch → String
  | .quiet => "quiet"
  | .json => "json"
  | .help => "help"
  | .version => "version"

def short? : Switch → Option Char
  | .quiet => some 'q'
  | .json => none
  | .help => some 'h'
  | .version => some 'V'

def about : Switch → String
  | .quiet => "Don't echo guest output"
  | .json => "Print the run result as JSON"
  | .help => "Print help"
  | .version => "Print version"

/-- The switch as messages show it. -/
def shown (s : Switch) : String := "--" ++ s.long

end Switch

/-- What a name on the command line stands for. -/
inductive OptionName
  | takesValue (k : OptionKey)
  | alone (s : Switch)
deriving DecidableEq, Repr

namespace OptionName

def ofLong? (name : String) : Option OptionName :=
  ((OptionKey.all.find? fun k => k.long == name).map .takesValue) <|>
    (Switch.all.find? fun s => s.long == name).map .alone

def ofShort? (letter : Char) : Option OptionName :=
  ((OptionKey.all.find? fun k => k.short? == some letter).map .takesValue) <|>
    (Switch.all.find? fun s => s.short? == some letter).map .alone

end OptionName

end GuestWatch
