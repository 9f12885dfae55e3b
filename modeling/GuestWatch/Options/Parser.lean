import GuestWatch.Options.Usage

/-! # Reading command lines

Arguments are read from left to right. A value that is an argument of its own is checked only when
the next option comes, or the end, so that an unknown argument after it is reported first. After
two hyphens on their own all arguments are taken for the guest.
-/
namespace GuestWatch.Options

open Usage (Fault)

/-- An argument: octets, which need not be text. -/
abbrev Arg := List UInt8

def shownArg (a : Arg) : String := Text.Utf8.decode a

/-! ## Values -/

/-- The text of a value. -/
def textValue (a : Arg) : Except Fault String :=
  match Text.Utf8.decode? a with
  | some s => .ok s
  | none => .error .notText

/-- A path, which must not be empty. -/
def pathValue (k : OptionKey) (a : Arg) : Except Fault Path :=
  if a.isEmpty then .error (.missingValue k) else .ok ⟨a⟩

def wordValue (k : OptionKey) (a : Arg) : Except Fault UInt64 := do
  let s ← textValue a
  match Text.Decimal.readUnsigned Text.Decimal.max64 s.toList with
  | .ok n => .ok (.ofNat n)
  | .error f => .error (.badValue s k f.message)

def baudValue (a : Arg) : Except Fault UInt32 := do
  let s ← textValue a
  match Text.Decimal.readSigned64 s.toList with
  | .error f => .error (.badValue s .baud f.message)
  | .ok z =>
    if 0 ≤ z ∧ z ≤ Text.Decimal.max32 then .ok (.ofNat z.toNat)
    else .error (.badValue s .baud
      (Text.Decimal.intText z ++ " is not in 0..=" ++ Text.Decimal.text Text.Decimal.max32))

/-- Whether an option that may be given once has been. -/
def isGiven (s : Settings) : OptionKey → Bool
  | .config => s.config.isSome
  | .kernel => s.kernel.isSome
  | .timeout => s.timeout.isSome
  | .lineTimeout => s.lineTimeout.isSome
  | .emulator => s.emulator.isSome
  | .machine => s.machine.isSome
  | .baud => s.baud.isSome
  | .expect => s.expect.isSome
  | .report => s.report.isSome
  | .passMarker | .failMarker => false

/-- Checks the value of an option and keeps it. -/
def giveValue (s : Settings) (k : OptionKey) (a : Arg) : Except Fault Settings :=
  if isGiven s k then .error (.repeated k.shown)
  else match k with
    | .config => (pathValue k a).map fun v => { s with config := some v }
    | .kernel => (pathValue k a).map fun v => { s with kernel := some v }
    | .report => (pathValue k a).map fun v => { s with report := some v }
    | .timeout => (wordValue k a).map fun v => { s with timeout := some v }
    | .lineTimeout => (wordValue k a).map fun v => { s with lineTimeout := some v }
    | .baud => (baudValue a).map fun v => { s with baud := some v }
    | .emulator => (textValue a).map fun v => { s with emulator := some v }
    | .machine => (textValue a).map fun v => { s with machine := some v }
    | .expect => (textValue a).map fun v => { s with expect := some v }
    | .passMarker => (textValue a).map fun v => { s with passMarkers := s.passMarkers ++ [v] }
    | .failMarker => (textValue a).map fun v => { s with failMarkers := s.failMarkers ++ [v] }

/-! ## Arguments -/

/-- What has been read but not yet checked. -/
inductive Pending
  | nothing
  | option (k : OptionKey) (value : Option Arg)
  | guest (value : Arg)

/-- Where reading stands. `onlyGuest` holds after two hyphens on their own, `guestSeen` once the
argument for the guest has come. -/
structure State where
  settings : Settings
  guest : Option String
  pending : Pending
  onlyGuest : Bool
  guestSeen : Bool

namespace State

def initial : State := ⟨{}, none, .nothing, false, false⟩

/-- Checks what is pending. -/
def settle (st : State) : Except Fault State :=
  match st.pending with
  | .nothing => .ok st
  | .option k none => .error (.missingValue k)
  | .option k (some a) =>
    (giveValue st.settings k a).map fun settings => { st with settings, pending := .nothing }
  | .guest a => (textValue a).map fun s => { st with guest := some s, pending := .nothing }

/-- An option, with its value if that is in the same argument. -/
def giveOption (st : State) (k : OptionKey) (value : Option Arg) : Except Fault State := do
  let st ← st.settle
  match value with
  | none => return { st with pending := .option k none }
  | some a => return { st with settings := ← giveValue st.settings k a }

def giveSwitch (calledAs : String) (st : State) (s : Switch) : Except Fault State := do
  let st ← st.settle
  match s with
  | .help => .error (.help (Usage.helpText calledAs))
  | .version => .error .version
  | .quiet =>
    if st.settings.quiet then .error (.repeated s.shown)
    else return { st with settings := { st.settings with quiet := true } }
  | .json =>
    if st.settings.json then .error (.repeated s.shown)
    else return { st with settings := { st.settings with json := true } }

/-- An argument that begins with two hyphens: the name after them, and the value after an equals
sign if there is one. -/
def long (st : State) (calledAs : String) (name : Arg) (value : Option Arg) :
    Except Fault State :=
  match (Text.Utf8.decode? name).bind OptionName.ofLong? with
  | none => .error (.unknownArgument ("--" ++ shownArg name))
  | some (.takesValue k) => st.giveOption k value
  | some (.alone s) =>
    match value with
    | some a => .error (.needlessValue (shownArg a) s.shown)
    | none => giveSwitch calledAs st s

def equalsSign : UInt8 := 0x3D

def hyphen : UInt8 := 0x2D

/-- The value in the same argument as a short option, if there is one. An equals sign before it is
not part of it. -/
def attached : Arg → Option Arg
  | [] => none
  | b :: rest => if b = equalsSign then some rest else some (b :: rest)

/-- The letters of an argument that begins with one hyphen; `tail` is what follows them and is not
text. -/
def shorts (calledAs : String) (tail : Arg) (st : State) : List Char → Except Fault State
  | [] =>
    if tail.isEmpty then .ok st else .error (.unknownArgument ("-" ++ shownArg tail))
  | c :: rest =>
    match OptionName.ofShort? c with
    | none => .error (.unknownArgument (String.ofList ['-', c]))
    | some (.takesValue k) => st.giveOption k (attached (Text.Utf8.encodeChars rest ++ tail))
    | some (.alone s) => do
      let st ← giveSwitch calledAs st s
      shorts calledAs tail st rest

/-- An argument that is a value or the guest. -/
def plain (st : State) (a : Arg) : Except Fault State :=
  match st.pending, st.onlyGuest with
  | .option k none, false => .ok { st with pending := .option k (some a) }
  | _, _ =>
    if st.guestSeen then .error (.unknownArgument (shownArg a))
    else st.settle.map fun st => { st with pending := .guest a, guestSeen := true }

/-- The part before the first equals sign, and the part after it if there is one. -/
def splitValue : Arg → Arg × Option Arg
  | [] => ([], none)
  | b :: rest =>
    if b = equalsSign then ([], some rest)
    else let (name, value) := splitValue rest; (b :: name, value)

/-- One argument. A single hyphen is no option. -/
def argument (calledAs : String) (st : State) (a : Arg) : Except Fault State :=
  match a with
  | first :: second :: rest =>
    if st.onlyGuest || first ≠ hyphen then st.plain a
    else if second ≠ hyphen then
      let (letters, tail) := Text.Utf8.wellFormedStart (second :: rest)
      st.shorts calledAs tail letters
    else if rest.isEmpty then .ok { st with onlyGuest := true }
    else
      let (name, value) := splitValue rest
      st.long calledAs name value
  | _ => st.plain a

end State

/-- The options on a command line, without the program's name, which is given for the help
text. -/
def ofArgs (calledAs : String) (args : List Arg) : Except Fault Options := do
  let st ← args.foldlM (State.argument calledAs) State.initial
  let st ← st.settle
  match st.guest with
  | some guest => return { st.settings with guest }
  | none => .error .missingGuest

end GuestWatch.Options
