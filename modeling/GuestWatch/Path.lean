import GuestWatch.Text.Utf8

/-! # Paths

A path is a sequence of octets, which need not be text. It is shown as text all the same, with
what is ill formed replaced.
-/
namespace GuestWatch

structure Path where
  bytes : List UInt8
deriving DecidableEq, Repr, Inhabited

namespace Path

def ofText (text : String) : Path := ⟨Text.Utf8.encode text⟩

/-- The path as messages show it. -/
def shown (p : Path) : String := Text.Utf8.decode p.bytes

/-- The path as text, where it is text. -/
def text? (p : Path) : Option String := Text.Utf8.decode? p.bytes

/-! ## Parts -/

/-- What stands between slashes: the directory itself, the one that holds it, or a name in it. -/
inductive Part
  | here
  | parent
  | name (octets : List UInt8)
deriving DecidableEq, Repr

def slash : UInt8 := 0x2F

def dot : UInt8 := 0x2E

/-- The part that a piece between slashes stands for. An empty one leads nowhere. -/
def Part.ofOctets (octets : List UInt8) : Part :=
  if octets = [] ∨ octets = [dot] then .here
  else if octets = [dot, dot] then .parent
  else .name octets

def Part.octets : Part → List UInt8
  | .here => [dot]
  | .parent => [dot, dot]
  | .name octets => octets

/-- The pieces between slashes, some of which may be empty. -/
def pieces : List UInt8 → List (List UInt8)
  | [] => [[]]
  | b :: rest =>
    if b = slash then [] :: pieces rest
    else match pieces rest with
      | [] => [[b]]
      | piece :: more => (b :: piece) :: more

/-- Whether the path starts at the root. -/
def isRooted (p : Path) : Bool := p.bytes.head? == some slash

/-- The parts of a path. Repeated slashes count as one, and a dot counts only at the start. -/
def parts (p : Path) : List Part :=
  let all := ((pieces p.bytes).filter (! ·.isEmpty)).map Part.ofOctets
  match all, p.isRooted with
  | .here :: rest, false => .here :: rest.filter (· ≠ .here)
  | all, _ => all.filter (· ≠ .here)

/-- The name that the path ends in, if it ends in one. -/
def lastName? (p : Path) : Option (List UInt8) :=
  match p.parts.getLast? with
  | some (.name octets) => some octets
  | _ => none

end Path

end GuestWatch
