import GuestWatch.Files.Tree

/-! # Files under paths

A path is followed part by part, from the root or from the current directory. Every part but the
last must be a directory, and the last must be one too if a slash follows it.
-/
namespace GuestWatch

open Files (Name Node)

/-- A tree of files, the names that lead to the current directory, and how the path of that
directory is written. -/
structure Files where
  root : Node
  here : List Name
  hereShown : Path

namespace Files

/-- The longest path, with the octet that ends it. -/
def pathLimit : Nat := 4096

/-- The longest name. -/
def nameLimit : Nat := 255

/-- One part of a path: the names that lead to where it leads. -/
def step (root : Node) (names : List Name) (part : Path.Part) : Except Fault (List Name) :=
  match root.at? names with
  | none => .error .noEntry
  | some n =>
    if !n.isDirectory then .error .notDirectory
    else match part with
      | .here => .ok names
      | .parent => .ok names.dropLast
      | .name name =>
        if name.length > nameLimit then .error .nameTooLong
        else if (n.get? name).isSome then .ok (names ++ [name])
        else .error .noEntry

/-- Where a path is followed from, and its pieces. -/
def start (f : Files) (p : Path) : List Name × List (List UInt8) :=
  if (f.hereShown.bytes ++ [Path.slash]).isPrefixOf p.bytes then
    (f.here, Path.pieces (p.bytes.drop f.hereShown.bytes.length))
  else (if p.isRooted then [] else f.here, Path.pieces p.bytes)

/-- The names that lead to what a path names. -/
def locate (f : Files) (p : Path) : Except Fault (List Name) :=
  if p.bytes.contains 0 then .error .nulInName
  else if p.bytes.isEmpty then .error .noEntry
  else if pathLimit ≤ p.bytes.length then .error .nameTooLong
  else
    let (names, pieces) := f.start p
    (pieces.map Path.Part.ofOctets).foldlM (step f.root) names

/-- What a path names. -/
def get (f : Files) (p : Path) : Except Fault Node := do
  let names ← f.locate p
  match f.root.at? names with
  | some n => return n
  | none => .error .noEntry

/-- How a program begins that is kept as a list of acts. -/
def interpreterMark : List UInt8 := Text.Utf8.encode "#!"

/-- The content of what a path names. -/
def read (f : Files) (p : Path) : Except Fault (List UInt8) := do
  match ← f.get p with
  | .file content _ => return content
  | .program _ => return interpreterMark
  | .directory _ => .error .isDirectory
  | .terminal _ => return []
  | .device none => return []
  | .device (some refusal) => .error refusal

/-- The content of a file that is text. -/
def readText (f : Files) (p : Path) : Except Fault String := do
  match Text.Utf8.decode? (← f.read p) with
  | some text => return text
  | none => .error .notText

/-- The names that lead to a file that a path asks to be made. -/
def locateNew (f : Files) (p : Path) : Except Fault (List Name) := do
  let (names, pieces) := f.start p
  let parts := pieces.map Path.Part.ofOctets
  let names ← parts.dropLast.foldlM (step f.root) names
  match parts.getLast? with
  | some (.name name) =>
    if (f.root.at? names).any (·.isDirectory) then return names ++ [name]
    else .error .notDirectory
  | _ => .error .isDirectory

/-- Makes what a path names a file with a content. -/
def write (f : Files) (p : Path) (content : List UInt8) : Except Fault Files :=
  match f.locate p with
  | .error .noEntry => do
    let names ← f.locateNew p
    return { f with root := f.root.put names (.file content false) }
  | .error e => .error e
  | .ok names =>
    match f.root.at? names with
    | none | some (.directory _) => .error .isDirectory
    | some (.device (some refusal)) => .error refusal
    | some (.device none) | some (.terminal _) => .ok f
    | some n => .ok { f with root := f.root.put names (.file content n.isExecutable) }

/-- Puts an entry under the names of a path from the current directory on. -/
def add (f : Files) (p : Path) (n : Node) : Files :=
  let names := p.parts.map Path.Part.octets
  { f with root := f.root.put (f.here ++ names) n }

end Files

end GuestWatch
