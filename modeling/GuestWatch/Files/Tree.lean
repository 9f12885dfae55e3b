import GuestWatch.Files.Fault
import GuestWatch.Path
import GuestWatch.Program

/-! # Trees of files

A directory has entries under names; a name that is put again takes the place of the old entry.
-/
namespace GuestWatch.Files

abbrev Name := List UInt8

/-- What a name in a directory stands for. A device may refuse to be opened; a terminal receives a
stream from when it is opened. -/
inductive Node
  | file (content : List UInt8) (executable : Bool)
  | program (p : Program)
  | device (refusal : Option Fault)
  | terminal (input : Stream)
  | directory (entries : List (Name × Node))

namespace Node

def entries : Node → List (Name × Node)
  | .directory entries => entries
  | _ => []

def isDirectory : Node → Bool
  | .directory _ => true
  | _ => false

/-- Whether it can be started as a program. -/
def isExecutable : Node → Bool
  | .file _ executable => executable
  | .program _ => true
  | _ => false

def get? (n : Node) (name : Name) : Option Node :=
  (n.entries.find? (·.1 == name)).map (·.2)

/-- The entry at the end of a list of names. -/
def at? (n : Node) : List Name → Option Node
  | [] => some n
  | name :: rest => (n.get? name).bind (·.at? rest)

def putEntry (entries : List (Name × Node)) (name : Name) (n : Node) : List (Name × Node) :=
  match entries with
  | [] => [(name, n)]
  | e :: rest => if e.1 = name then (name, n) :: rest else e :: putEntry rest name n

/-- Puts an entry at the end of a list of names, and directories on the way to it. -/
def put (n : Node) (names : List Name) (new : Node) : Node :=
  match names with
  | [] => new
  | name :: rest =>
    .directory (putEntry n.entries name (((n.get? name).getD (.directory [])).put rest new))

end Node

end GuestWatch.Files
