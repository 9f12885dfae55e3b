import GuestWatch.Files
import GuestWatch.LineReader

/-! # A tree of files as surroundings

Programs given by a path with several parts are looked up from the current directory, and ones
given by a bare name in its directory of programs.
-/
namespace GuestWatch.Files

/-- The directory in which programs are looked up by name. -/
def programs (f : Files) : Path := ⟨f.hereShown.bytes ++ [Path.slash] ++ Text.Utf8.encode "bin"⟩

/-- The path under which a program is looked for. -/
def candidate (f : Files) (name : String) : Path :=
  let p := Path.ofText name
  let parts := p.parts
  if p.isRooted then p
  else if parts.length > 1 then
    let below := parts.filter (· ≠ .here)
    ⟨f.hereShown.bytes ++ below.flatMap fun part => Path.slash :: part.octets⟩
  else ⟨f.programs.bytes ++ Path.slash :: p.bytes⟩

/-- The path of a program. -/
def findProgram (f : Files) (name : String) : Option Path :=
  let p := f.candidate name
  match f.get p with
  | .ok n => if n.isExecutable then some p else none
  | .error _ => none

/-- The path of the interpreter that a file asks for in its first line. -/
def interpreter? (content : List UInt8) : Option Path :=
  if interpreterMark.isPrefixOf content then
    let isBlank := fun b : UInt8 => b = 0x20 ∨ b = 0x09
    let line := (content.drop interpreterMark.length).takeWhile (· ≠ lineFeed)
    let name := (line.dropWhile isBlank).takeWhile (! isBlank ·)
    if name.isEmpty then none else some ⟨name⟩
  else none

/-- Starts what a path names. A file can be started only through an interpreter, and none of those
here is one. -/
def spawn (f : Files) (p : Path) (args : List String) : Except Fault Spawned :=
  if args.any (·.toList.contains '\x00') then .error .nulInArgument
  else do
    match ← f.get p with
    | .program program => return program.started args
    | .file content true =>
      match interpreter? content with
      | none => .error .noExecutable
      | some interpreter =>
        if (← f.get interpreter).isExecutable then .error .noExecutable else .error .accessDenied
    | _ => .error .accessDenied

/-- Opens a terminal. -/
def openLine (f : Files) (p : Path) : Except Fault Stream := do
  match ← f.get p with
  | .terminal input => return input
  | .directory _ => .error .isDirectory
  | .device (some refusal) => .error refusal
  | _ => .error .notTerminal

/-- The surroundings of a run in the current directory. -/
def environment (f : Files) : Environment where
  readText p := (f.readText p).mapError Fault.message
  isPresent p := (f.get p).toBool
  findProgram := f.findProgram
  spawn p args := (f.spawn p args).mapError Fault.message
  openLine p _ := (f.openLine p).mapError Fault.message

end GuestWatch.Files
