/-! # Places in a text

A place is what lies before it: whole lines, and octets of the line begun. A cursor is a place
with the text that follows.
-/
namespace GuestWatch.Json

structure Place where
  line : Nat
  column : Nat
deriving DecidableEq, Repr, Inhabited

namespace Place

def start : Place := ⟨1, 0⟩

/-- The place after a character. -/
def after (p : Place) (c : Char) : Place :=
  if c = '\n' then ⟨p.line + 1, 0⟩ else ⟨p.line, p.column + c.utf8Size⟩

/-- The place after the first octet of a character. -/
def within (p : Place) (c : Char) : Place :=
  if c = '\n' then ⟨p.line + 1, 0⟩ else ⟨p.line, p.column + 1⟩

end Place

structure Cursor where
  place : Place
  rest : List Char
deriving Repr

namespace Cursor

def ofText (text : String) : Cursor := ⟨.start, text.toList⟩

/-- The place just past the next octet: where a fault is reported that the next character shows. -/
def peeked (c : Cursor) : Place :=
  match c.rest with
  | [] => c.place
  | next :: _ => c.place.within next

/-- The four characters that may stand between the parts of a text. -/
def isSpace (c : Char) : Bool := c == ' ' || c == '\n' || c == '\t' || c == '\r'

/-- Past the spaces before `rest`. -/
def skip (place : Place) : List Char → Cursor
  | [] => ⟨place, []⟩
  | c :: rest => if isSpace c then skip (place.after c) rest else ⟨place, c :: rest⟩

def skipSpaces (c : Cursor) : Cursor := skip c.place c.rest

/-- Past one character. -/
def advance (c : Cursor) : Cursor :=
  match c.rest with
  | [] => c
  | next :: rest => ⟨c.place.after next, rest⟩

end Cursor

end GuestWatch.Json
