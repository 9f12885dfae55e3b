import GuestWatch.Pattern.Scan
import GuestWatch.Unicode.CharSet

/-! # Escapes and other primitives

What a backslash introduces: characters with a meaning of their own, characters given by number,
classes, and assertions about what stands at a position.
-/
namespace GuestWatch.Pattern.Parser

/-- Characters that have a meaning somewhere in a pattern. -/
def isMeta (c : Char) : Bool :=
  ['\\', '.', '+', '*', '?', '(', ')', '|', '[', ']', '\x7b', '\x7d', '^', '$', '#', '&', '-',
    '~'].contains c

/-- Whether a backslash before the character leaves it as it is. -/
def isEscapable (c : Char) : Bool :=
  isMeta c || (c.toNat < 0x80 && !c.isAlphanum && c != '<' && c != '>')

def hexDigit? (c : Char) : Option Nat := Unicode.CharSet.hexDigit c

/-- The character with a given number, if there is one. -/
def scalar? (n : Nat) : Option Char := if n.isValidChar then some (Char.ofNat n) else none

/-- A number of a fixed count of digits. -/
def hexDigits (start : Position) (octet : Bool) (value : Nat) : Nat → Parser Literal
  | 0 => do
    let stop ← pos
    match scalar? value with
    | some c => return ⟨⟨start, stop⟩, c, octet⟩
    | none => fail .escapeHexInvalid ⟨start, stop⟩
  | left + 1 => do
    match ← next? with
    | none => fail .escapeUnexpectedEof (← here)
    | some c =>
      match hexDigit? c with
      | none => fail .escapeHexInvalidDigit (← charSpan)
      | some d => do
        let _ ← bumpBlanks
        hexDigits start octet (value * 16 + d) left

/-- The digits of a number between braces, with their count. -/
def bracedDigits (brace : Position) (value count : Nat) : Nat → Parser (Nat × Nat)
  | 0 => return (value, count)
  | left + 1 => do
    let _ ← bumpBlanks
    match ← next? with
    | some '\x7d' => return (value, count)
    | some c =>
      match hexDigit? c with
      | none => fail .escapeHexInvalidDigit (← charSpan)
      | some d => bracedDigits brace (value * 16 + d) (count + 1) left
    | none => fail .escapeUnexpectedEof ⟨brace, ← pos⟩

/-- A number between braces. -/
def bracedHex : Parser Literal := do
  let brace ← pos
  let start := (← charSpan).stop
  let (value, count) ← bracedDigits brace 0 0 (← fuel)
  let stop ← pos
  let _ ← bumpBlanks
  if count = 0 then fail .escapeHexEmpty ⟨brace, ← pos⟩
  match scalar? value with
  | some c => return ⟨⟨start, ← pos⟩, c, false⟩
  | none => fail .escapeHexInvalid ⟨start, stop⟩

/-- A character given by number, after the backslash. -/
def hex (letter : Char) : Parser Literal := do
  if ¬ (← bumpBlanks) then fail .escapeUnexpectedEof (← here)
  if (← next?) = some '\x7b' then bracedHex
  else
    let count := if letter = 'x' then 2 else if letter = 'u' then 4 else 8
    hexDigits (← pos) (letter = 'x') 0 count

/-- The name of a property, up to the closing brace, last character first. -/
def propertyName (read : List Char) : Nat → Parser (List Char)
  | 0 => return read
  | left + 1 => do
    let _ ← bumpBlanks
    match ← next? with
    | some '\x7d' => return read
    | some c => propertyName (c :: read) left
    | none => fail .escapeUnexpectedEof (← here)

/-- Cuts a text at the first place where a word stands. -/
def cutAt (word : List Char) (before : List Char) : List Char → Option (List Char × List Char)
  | [] => none
  | c :: rest =>
    if word.isPrefixOf (c :: rest) then
      some (before.reverse, (c :: rest).drop word.length)
    else cutAt word (c :: before) rest

/-- What a property class asks for: a name, or a name with a value. -/
def propertyQuery (name : List Char) : PropertyQuery :=
  match cutAt ['!', '='] [] name with
  | some (n, v) => .valued (String.ofList n) (String.ofList v) true
  | none =>
    match cutAt [':'] [] name with
    | some (n, v) => .valued (String.ofList n) (String.ofList v) false
    | none =>
      match cutAt ['='] [] name with
      | some (n, v) => .valued (String.ofList n) (String.ofList v) false
      | none => .named (String.ofList name)

/-- A property class, after the backslash at `start`. -/
def propertyClass (start : Position) (negated : Bool) : Parser PropertyClass := do
  if ¬ (← bumpBlanks) then fail .escapeUnexpectedEof (← here)
  match ← next? with
  | some '\x7b' => do
    let name ← propertyName [] (← fuel)
    let _ ← bump
    return ⟨⟨start, ← pos⟩, negated, propertyQuery name.reverse⟩
  | some '\\' => fail .unicodeClassInvalid (← charSpan)
  | some c => do
    let _ ← bumpBlanks
    return ⟨⟨start, ← pos⟩, negated, .named (String.singleton c)⟩
  | none => fail .escapeUnexpectedEof (← here)

def isBoundaryLetter (c : Char) : Bool := c.isAlpha || c == '-'

/-- The letters of a word boundary's name. -/
def boundaryName (read : List Char) : Nat → Parser (List Char)
  | 0 => return read
  | left + 1 => do
    match ← next? with
    | some c =>
      if isBoundaryLetter c then
        let _ ← bumpBlanks
        boundaryName (c :: read) left
      else return read
    | none => return read

/-- A word boundary of a special kind, between braces. What does not begin with a letter is left
for a counted repetition. -/
def specialBoundary (start : Position) : Parser (Option Assertion) := do
  let before ← get
  if ¬ (← bumpBlanks) then fail .wordBoundaryOrRepetitionUnclosed ⟨start, ← pos⟩
  let contents ← pos
  if ¬ ((← next?).any isBoundaryLetter) then
    set before
    return none
  let name ← boundaryName [] (← fuel)
  if (← next?) ≠ some '\x7d' then fail .wordBoundaryUnclosed ⟨before.pos, ← pos⟩
  let stop ← pos
  let _ ← bump
  match String.ofList name.reverse with
  | "start" => return some .wordStart
  | "end" => return some .wordEnd
  | "start-half" => return some .wordStartHalf
  | "end-half" => return some .wordEndHalf
  | _ => fail .wordBoundaryUnrecognized ⟨contents, stop⟩

/-- What a single letter after a backslash means. -/
def letterEscape (start : Position) (c : Char) : Parser Primitive := do
  let _ ← bump
  let span : Span := ⟨start, ← pos⟩
  let special := fun (x : Char) => Primitive.literal ⟨span, x, false⟩
  if isEscapable c then return special c
  match c with
  | 'a' => return special '\x07'
  | 'f' => return special '\x0c'
  | 't' => return special '\t'
  | 'n' => return special '\n'
  | 'r' => return special '\r'
  | 'v' => return special '\x0b'
  | 'A' => return .assertion span .textStart
  | 'z' => return .assertion span .textEnd
  | 'B' => return .assertion span .notWordBoundary
  | '<' => return .assertion span .wordStart
  | '>' => return .assertion span .wordEnd
  | 'b' =>
    if (← next?) = some '\x7b' then
      match ← specialBoundary start with
      | some kind => return .assertion ⟨start, ← pos⟩ kind
      | none => return .assertion span .wordBoundary
    else return .assertion span .wordBoundary
  | _ => fail .escapeUnrecognized span

/-- A class written as a letter. -/
def letterClass? (c : Char) : Option (LetterKind × Bool) :=
  match c with
  | 'd' => some (.digit, false)
  | 'D' => some (.digit, true)
  | 's' => some (.space, false)
  | 'S' => some (.space, true)
  | 'w' => some (.word, false)
  | 'W' => some (.word, true)
  | _ => none

/-- An escape, from its backslash on. -/
def escape : Parser Primitive := do
  let start ← pos
  if ¬ (← bump) then fail .escapeUnexpectedEof ⟨start, ← pos⟩
  match ← next? with
  | none => fail .escapeUnexpectedEof ⟨start, ← pos⟩
  | some c =>
    if c.isDigit then fail .backreference ⟨start, (← charSpan).stop⟩
    else if c = 'x' ∨ c = 'u' ∨ c = 'U' then
      let l ← hex c
      return .literal { l with span := ⟨start, l.span.stop⟩ }
    else if c = 'p' ∨ c = 'P' then return .property (← propertyClass start (c = 'P'))
    else match letterClass? c with
      | some (kind, negated) => do
        let _ ← bump
        return .letter ⟨⟨start, ← pos⟩, kind, negated⟩
      | none => letterEscape start c

/-- A character that stands for itself. -/
def verbatim (c : Char) : Parser Literal := do
  let span ← charSpan
  let _ ← bump
  return ⟨span, c, false⟩

/-- A primitive outside of brackets. -/
def primitive (c : Char) : Parser Primitive := do
  match c with
  | '\\' => escape
  | '.' => do let s ← charSpan; let _ ← bump; return .dot s
  | '^' => do let s ← charSpan; let _ ← bump; return .assertion s .lineStart
  | '$' => do let s ← charSpan; let _ ← bump; return .assertion s .lineEnd
  | c => return .literal (← verbatim c)

end GuestWatch.Pattern.Parser
