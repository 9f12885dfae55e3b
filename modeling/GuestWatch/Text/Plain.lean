import GuestWatch.Text.Utf8

/-! # Text without control sequences

A terminal takes some octets as orders: control characters, and sequences that begin with an escape.
Plain text is what is left when these are taken out. Blanks that a terminal acts upon stay, even
where they interrupt a sequence.
-/
namespace GuestWatch.Text.Plain

/-- Where the reader stands. `showing` is in the midst of text and `ground` at a place where text
may begin; the others are inside of a sequence. -/
inductive State
  | showing
  | ground
  | escape
  | escapeTail
  | control
  | controlParameters
  | controlTail
  | controlIgnored
  | device
  | deviceParameters
  | deviceTail
  | deviceIgnored
  | deviceData
  | command
  | privateText
deriving DecidableEq, Repr

/-- Blanks that are kept: tab, line feed, form feed, carriage return and space. -/
def isKeptBlank (b : UInt8) : Bool :=
  b == 0x09 || b == 0x0A || b == 0x0C || b == 0x0D || b == 0x20

/-- Octets in which a character goes on. -/
def isContinuation (b : UInt8) : Bool := 0x80 ≤ b && b < 0xC0

/-- Octets that begin something to show. -/
def isShown (b : UInt8) : Bool := isKeptBlank b || (0x20 ≤ b && b < 0x7F) || 0xC2 ≤ b

/-- Whether an octet is a control character of ASCII, apart from the last of them. -/
def isControl (b : UInt8) : Bool := b < 0x20

/-- Where a sequence goes on after the octet behind the escape. -/
def afterEscape (b : UInt8) : State :=
  if b < 0x30 then .escapeTail
  else if b = 0x5B then .control
  else if b = 0x5D then .command
  else if b = 0x50 then .device
  else if b = 0x58 ∨ b = 0x5E ∨ b = 0x5F then .privateText
  else .ground

/-- Where a control sequence goes on: intermediate octets, then parameters, then marks; any other
octet ends it. -/
def inControl (intermediate parameter mark : State) (b : UInt8) : State :=
  if b < 0x30 then intermediate
  else if b < 0x3C then parameter
  else if b < 0x40 then mark
  else .ground

/-- Where a device sequence goes on, likewise; any other octet begins its data. -/
def inDevice (intermediate parameter mark : State) (b : UInt8) : State :=
  if b < 0x30 then intermediate
  else if b < 0x3C then parameter
  else if b < 0x40 then mark
  else .deviceData

/-- What an octet of a sequence leads to, when it is neither a control character nor beyond ASCII.
-/
def within (s : State) (b : UInt8) : State :=
  match s with
  | .showing | .ground => .ground
  | .escape => afterEscape b
  | .escapeTail => if b < 0x30 then .escapeTail else .ground
  | .control => inControl .controlTail .controlParameters .controlParameters b
  | .controlParameters => inControl .controlTail .controlParameters .controlIgnored b
  | .controlTail => inControl .controlTail .controlIgnored .controlIgnored b
  | .controlIgnored => if b < 0x40 then .controlIgnored else .ground
  | .device => inDevice .deviceTail .deviceParameters .deviceParameters b
  | .deviceParameters => inDevice .deviceTail .deviceParameters .deviceIgnored b
  | .deviceTail => inDevice .deviceTail .deviceIgnored .deviceIgnored b
  | .deviceIgnored | .deviceData | .command | .privateText => s

/-- Whether control characters act in the midst of a sequence, so that a blank shows. -/
def actsOnControls : State → Bool
  | .showing | .ground | .escape | .escapeTail | .control | .controlParameters | .controlTail
  | .controlIgnored => true
  | _ => false

/-- Whether the octet `9C` ends a sequence. -/
def endsEarly : State → Bool
  | .deviceIgnored | .deviceData | .privateText => true
  | _ => false

/-- What an octet does where no text is being shown: whether it is shown, and the state after it. -/
def skip (s : State) (b : UInt8) : Bool × State :=
  if b = 0x18 ∨ b = 0x1A then (false, .ground)
  else if b = 0x1B then (false, .escape)
  else if s = .ground then if isShown b then (true, .showing) else (false, .ground)
  else if isControl b then
    if actsOnControls s ∧ isKeptBlank b then (true, .showing)
    else if s = .command ∧ b = 0x07 then (false, .ground)
    else (false, s)
  else if 0x7F ≤ b then if b = 0x9C ∧ endsEarly s then (false, .ground) else (false, s)
  else (false, within s b)

/-- What an octet does: whether it is shown, and the state after it. Shown text ends at the first
octet that is neither shown nor part of a character. -/
def step (s : State) (b : UInt8) : Bool × State :=
  if s = .showing then
    if isShown b ∨ isContinuation b then (true, .showing) else skip .ground b
  else skip s b

/-- The shown ones of some octets. -/
def shownFrom : State → List UInt8 → List UInt8
  | _, [] => []
  | s, b :: bytes =>
    let (shown, next) := step s b
    if shown then b :: shownFrom next bytes else shownFrom next bytes

/-- A text without control characters and sequences. -/
def ofText (text : String) : String := Utf8.decode (shownFrom .ground (Utf8.encode text))

end GuestWatch.Text.Plain
