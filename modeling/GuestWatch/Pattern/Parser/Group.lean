import GuestWatch.Pattern.Parser.Escape
import GuestWatch.Unicode.Property

/-! # Groups

What follows an opening parenthesis: the name of a capture, flags, or nothing special.
-/
namespace GuestWatch.Pattern.Parser

def letters : Unicode.CharSet.Index := Unicode.Binary.alphabetic.index

def numerals : Unicode.CharSet.Index := (Unicode.Category.ofShortNames ["nd", "nl", "no"]).index

/-- Characters that the name of a capture may begin with. -/
def startsName (c : Char) : Bool := c == '_' || letters.contains c.toNat

/-- Characters that the name of a capture may go on with. -/
def continuesName (c : Char) : Bool :=
  startsName c || c == '.' || c == '[' || c == ']' || numerals.contains c.toNat

/-- The characters of a name up to the angle bracket, last character first. -/
def captureName (read : List Char) : Nat → Parser (List Char)
  | 0 => return read
  | left + 1 => do
    match ← next? with
    | none => return read
    | some '>' => return read
    | some c =>
      if ¬ (if read.isEmpty then startsName c else continuesName c) then
        fail .groupNameInvalid (← charSpan)
      let _ ← bump
      captureName (c :: read) left

/-- Names of captures with their spans. -/
abbrev Names := List (List Char × Span)

/-- The name of a capture, which must be new. -/
def newName (names : Names) : Parser Names := do
  if (← next?) = none then fail .groupNameUnexpectedEof (← here)
  let start ← pos
  let name ← captureName [] (← fuel)
  let stop ← pos
  if (← next?) = none then fail .groupNameUnexpectedEof (← here)
  let _ ← bump
  if name.isEmpty then fail .groupNameEmpty (.here start)
  match names.find? fun n => n.1 == name with
  | some n => failTwice .groupNameDuplicate ⟨start, stop⟩ n.2
  | none => return (name, ⟨start, stop⟩) :: names

def flag? (c : Char) : Option Flag :=
  match c with
  | 'i' => some .caseInsensitive
  | 'm' => some .multiLine
  | 's' => some .dotMatchesNewLine
  | 'U' => some .swapGreed
  | 'u' => some .unicode
  | 'R' => some .crlf
  | 'x' => some .ignoreWhitespace
  | _ => none

/-- Adds an item to a group of flags, in which none may occur twice. -/
def addFlag (items : Flags) (item : FlagItem) (twice : Cause) : Parser Flags := do
  let span ← charSpan
  match items.find? fun i => i.2 == item with
  | some i => failTwice twice span i.1
  | none => return items ++ [(span, item)]

/-- Flags up to a colon or a closing parenthesis. -/
def flagLoop (items : Flags) (dangling : Option Span) : Nat → Parser Flags
  | 0 => return items
  | left + 1 => do
    match ← next? with
    | none => fail .flagUnexpectedEof (← here)
    | some c =>
      if c = ':' ∨ c = ')' then
        match dangling with
        | some span => fail .flagDanglingNegation span
        | none => return items
      else
        let span ← charSpan
        let items ←
          if c = '-' then addFlag items .negation .flagRepeatedNegation
          else match flag? c with
            | some f => addFlag items (.flag f) .flagDuplicate
            | none => fail .flagUnrecognized span
        let _ ← bump
        flagLoop items (if c = '-' then some span else none) left

/-- How a parenthesis opens: with flags for the rest of the enclosing group, or a group. -/
inductive Opening
  | flags (span : Span) (flags : Flags)
  | group (span : Span) (kind : GroupKind)

/-- An opening parenthesis with what belongs to it, and the names of captures so far. -/
def opening (names : Names) : Parser (Opening × Names) := do
  let span ← charSpan
  let _ ← bump
  modify Scan.skipBlanks
  for word in ["?=", "?!", "?<=", "?<!"] do
    if ← bumpIf word then fail .lookAround ⟨span.start, ← pos⟩
  let inner ← here
  if (← bumpIf "?P<") || (← bumpIf "?<") then
    return (.group span .capture, ← newName names)
  else if ← bumpIf "?" then
    if (← next?) = none then fail .groupUnclosed span
    let items ← flagLoop [] none (← fuel)
    let close ← next?
    let _ ← bump
    if close = some ')' then
      if items.isEmpty then fail .repetitionMissing inner
      return (.flags ⟨span.start, ← pos⟩ items, names)
    return (.group span (.plain items), names)
  else return (.group span .capture, names)

end GuestWatch.Pattern.Parser
