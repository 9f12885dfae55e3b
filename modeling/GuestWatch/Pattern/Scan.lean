import GuestWatch.Pattern.Expr
import GuestWatch.Pattern.Fault
import GuestWatch.Text.Blank

/-! # Scanning a pattern

The scanner stands before a character of the pattern. Where blanks are ignored it can pass over
them and over comments, which run from a number sign to the end of the line.
-/
namespace GuestWatch.Pattern

/-- What is left of a pattern, whose length in characters was `length`. -/
structure Scan where
  pos : Position
  rest : List Char
  length : Nat
  ignoresBlanks : Bool
deriving Repr

namespace Scan

def ofText (pattern : String) : Scan := ⟨.start, pattern.toList, pattern.length, false⟩

/-- Past blanks and comments. -/
def blanks (inComment : Bool) (pos : Position) : List Char → Position × List Char
  | [] => (pos, [])
  | c :: rest =>
    if inComment then blanks (c ≠ '\n') (pos.after c) rest
    else if Text.isBlank c then blanks false (pos.after c) rest
    else if c = '#' then blanks true (pos.after c) rest
    else (pos, c :: rest)

def skipBlanks (s : Scan) : Scan :=
  if s.ignoresBlanks then
    let (pos, rest) := blanks false s.pos s.rest
    { s with pos, rest }
  else s

/-- Past one character. -/
def bump (s : Scan) : Scan :=
  match s.rest with
  | [] => s
  | c :: rest => { s with pos := s.pos.after c, rest }

/-- Past one character, and past what may be ignored after it. -/
def bumpBlanks (s : Scan) : Scan := s.bump.skipBlanks

def atEnd (s : Scan) : Bool := s.rest.isEmpty

/-- The empty span where the scanner stands. -/
def here (s : Scan) : Span := .here s.pos

/-- The span of the character before which the scanner stands. -/
def charSpan (s : Scan) : Span := ⟨s.pos, s.bump.pos⟩

/-- The character that follows the one before which the scanner stands. Where blanks are ignored it
is the next that is none, and one number sign is passed over; if there is none it is the next. -/
def ahead? (s : Scan) : Option Char :=
  let after := s.bump.rest
  if s.ignoresBlanks then
    let found := match after.dropWhile Text.isBlank with
      | '#' :: more => (more.dropWhile Text.isBlank).head?
      | more => more.head?
    found <|> after.head?
  else after.head?

/-- Past a word, where it comes next. -/
def bumpIf (word : List Char) (s : Scan) : Option Scan :=
  if word.isPrefixOf s.rest then some (word.foldl (fun s _ => s.bump) s) else none

end Scan

/-- A parser reads from a scanner and can fail. -/
abbrev Parser := StateT Scan (Except Fault)

namespace Parser

def fail {α : Type} (cause : Cause) (span : Span) : Parser α :=
  fun _ => .error ⟨cause, span, none⟩

/-- Fails over something that occurs for the second time. -/
def failTwice {α : Type} (cause : Cause) (span first : Span) : Parser α :=
  fun _ => .error ⟨cause, span, some first⟩

/-- The character before which the scanner stands. -/
def next? : Parser (Option Char) := do return (← get).rest.head?

def pos : Parser Position := do return (← get).pos

def here : Parser Span := do return (← get).here

def charSpan : Parser Span := do return (← get).charSpan

/-- Moves past one character and answers whether another follows. -/
def bump : Parser Bool := do
  modify Scan.bump
  return !(← get).atEnd

/-- Moves past one character and what may be ignored, and answers whether another follows. -/
def bumpBlanks : Parser Bool := do
  modify Scan.bumpBlanks
  return !(← get).atEnd

/-- Moves past a word if it comes next, and answers whether it did. -/
def bumpIf (word : String) : Parser Bool := do
  match (← get).bumpIf word.toList with
  | some s => set s; return true
  | none => return false

/-- More steps than any loop over the rest of the pattern takes. -/
def fuel : Parser Nat := do return (← get).length + 1

end Parser

end GuestWatch.Pattern
