import GuestWatch.Files.Fault
import GuestWatch.Session

/-! # The command

The guest's console arrives on standard input, to which the emulator or the serial device has been
connected. What has arrived so far is given to a session again and again until the session ends
with it.
-/
namespace GuestWatch.Command

/-- The system's words for what could not be done. -/
def reason : IO.Error → String
  | .noFileOrDirectory .. => Files.Fault.noEntry.message
  | .permissionDenied .. => Files.Fault.accessDenied.message
  | .inappropriateType .. => Files.Fault.isDirectory.message
  | e => toString e

/-- The text of a file. -/
def readText (p : Path) : IO (Except String String) := do
  try
    let content ← IO.FS.readBinFile p.shown
    match Text.Utf8.decode? content.toList with
    | some text => return .ok text
    | none => return .error Files.Fault.notText.message
  catch e => return .error (reason e)

/-- Whether something can be opened under a path. -/
def isPresent (p : Path) : IO Bool := do
  try
    let _ ← IO.FS.Handle.mk p.shown .read
    return true
  catch _ => return false

/-- What a run needs to be there before it starts: the kernel, or the device. -/
def needed (c : Config) : Guest → Path
  | .emulated => c.emulator.kernel
  | .serial device => .ofText device

/-- Surroundings in which the guest is on a console, however it is reached. -/
def surroundings (text : Except String String) (present : Bool) (console : Stream) :
    Environment where
  readText _ := text
  isPresent _ := present
  findProgram name := some (.ofText name)
  spawn _ _ := .ok ⟨⟨none, 0, none, none, false⟩, console⟩
  openLine _ _ := .ok console

/-- Reads on while the session waits for more and has the time to. -/
partial def follow (input : IO.FS.Stream) (session : Stream → Session.Outcome)
    (deadline start : Nat) (seen : Stream) : IO Session.Outcome := do
  let outcome := session (seen ++ [.hang])
  let waits := outcome.exitCode == Status.timedOut.exitCode
  if !waits || deadline ≤ (← IO.monoMsNow) - start then return outcome
  let data ← input.read 4096
  if data.isEmpty then return session seen
  let now := (← IO.monoMsNow) - start
  follow input session deadline start
    (seen ++ [.delay (now - seen.totalDelay), .bytes data.toList])

/-- Prints what a session leaves, and writes its file if that can be done. -/
def finish (outcome : Session.Outcome) : IO UInt32 := do
  IO.print outcome.output
  IO.eprint outcome.complaint
  if let some (path, text) := outcome.file then
    try IO.FS.writeFile path.shown text catch _ => pure ()
  return outcome.exitCode.toUInt32

def run (args : List Options.Arg) : IO UInt32 := do
  let options := Options.ofArgs Usage.programName args
  let text ← match options with
    | .ok { config := some path, .. } => readText path
    | _ => pure (.ok "")
  let clock ← IO.monoMsNow
  let session := fun present console =>
    let s : Session := ⟨surroundings text present console, .never, id, clock⟩
    (s.run? Usage.programName args).getD Session.broken
  match options with
  | .error _ => finish (session false [])
  | .ok o =>
    match o.configuration fun _ => text with
    | .error _ => finish (session false [])
    | .ok c =>
      let present ← isPresent (needed c (Guest.select o.guest))
      if present then
        finish (← follow (← IO.getStdin) (session true) c.timeoutMs (← IO.monoMsNow) [])
      else finish (session false [])

end GuestWatch.Command

def main (args : List String) : IO UInt32 :=
  GuestWatch.Command.run (args.map GuestWatch.Text.Utf8.encode)
