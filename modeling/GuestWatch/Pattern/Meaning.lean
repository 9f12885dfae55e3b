import GuestWatch.Pattern.Parser
import GuestWatch.Pattern.Regex
import GuestWatch.Unicode.Folding

/-! # What patterns mean

The meaning of a pattern is a regular expression. Flags are gone from it: they have been worked into
the sets of characters and into the assertions. A pattern that could match half of a character, or
that asks for properties of octets, has no meaning.
-/
namespace GuestWatch.Pattern

open GuestWatch.Unicode (CharSet)

/-- The flags in force. -/
structure Mode where
  caseInsensitive : Bool
  multiLine : Bool
  dotMatchesNewLine : Bool
  swapGreed : Bool
  unicode : Bool
  crlf : Bool
deriving DecidableEq, Repr

namespace Mode

/-- The flags at the start of a pattern. -/
def initial : Mode := ⟨false, false, false, false, true, false⟩

/-- The flags after a group of them has been read. -/
def adjust (m : Mode) (items : Flags) : Mode where
  caseInsensitive := (Flags.state? .caseInsensitive true items).getD m.caseInsensitive
  multiLine := (Flags.state? .multiLine true items).getD m.multiLine
  dotMatchesNewLine := (Flags.state? .dotMatchesNewLine true items).getD m.dotMatchesNewLine
  swapGreed := (Flags.state? .swapGreed true items).getD m.swapGreed
  unicode := (Flags.state? .unicode true items).getD m.unicode
  crlf := (Flags.state? .crlf true items).getD m.crlf

end Mode

namespace Regex

def refuse {α : Type} (cause : Cause) (span : Span) : Except Fault α := .error ⟨cause, span, none⟩

/-! ## Sets of characters -/

def asciiRanges : AsciiKind → String
  | .alnum => "30-39 41-5A 61-7A"
  | .alpha => "41-5A 61-7A"
  | .ascii => "0-7F"
  | .blank => "9 20"
  | .cntrl => "0-1F 7F"
  | .digit => "30-39"
  | .graph => "21-7E"
  | .lower => "61-7A"
  | .print => "20-7E"
  | .punct => "21-2F 3A-40 5B-60 7B-7E"
  | .space => "9-D 20"
  | .upper => "41-5A"
  | .word => "30-39 41-5A 5F 61-7A"
  | .xdigit => "30-39 41-46 61-66"

def asciiSet (kind : AsciiKind) : CharSet := .ofText (asciiRanges kind)

/-- Adds the other case of each ASCII letter. -/
def closeAscii (s : CharSet) : CharSet :=
  let upper := s.inter (asciiSet .upper)
  let lower := s.inter (asciiSet .lower)
  .unions [s, ⟨upper.ranges.map fun r => (r.1 + 32, r.2 + 32)⟩,
    ⟨lower.ranges.map fun r => (r.1 - 32, r.2 - 32)⟩]

/-- Closes a set under change of case, where case does not count. -/
def fold (m : Mode) (s : CharSet) : CharSet :=
  if ¬ m.caseInsensitive then s
  else if m.unicode then Unicode.Folding.close s
  else closeAscii s

/-- Negates a set. Among octets the negation of ASCII characters holds parts of characters. -/
def negate (m : Mode) (span : Span) (negated : Bool) (s : CharSet) : Except Fault CharSet :=
  if ¬ negated then .ok s
  else if m.unicode then .ok s.complement
  else refuse .invalidUtf8 span

def letterSet (m : Mode) (c : LetterClass) : Except Fault CharSet :=
  let s :=
    if m.unicode then
      match c.kind with
      | .digit => Unicode.Property.digits
      | .space => Unicode.Property.spaces
      | .word => Unicode.Property.wordCharacters
    else
      match c.kind with
      | .digit => asciiSet .digit
      | .space => asciiSet .space
      | .word => asciiSet .word
  negate m c.span c.negated s

def propertySet (m : Mode) (c : PropertyClass) : Except Fault CharSet :=
  if ¬ m.unicode then refuse .unicodeNotAllowed c.span
  else
    let (found, differs) := match c.query with
      | .named name => (Unicode.Property.ofName name, false)
      | .valued name value differs => (Unicode.Property.ofPair name value, differs)
    match found with
    | .error .noSuchProperty => refuse .propertyNotFound c.span
    | .error .noSuchValue => refuse .propertyValueNotFound c.span
    | .ok s => negate m c.span (c.negated != differs) (fold m s)

/-- The set of one literal outside of brackets. Characters beyond ASCII have one case only where
characters do not count. -/
def literalSet (m : Mode) (l : Literal) : Except Fault CharSet :=
  if ¬ m.unicode ∧ l.octet ∧ 0x80 ≤ l.char.toNat then refuse .invalidUtf8 l.span
  else .ok (fold m (.singleton l.char))

/-- The number of a literal inside of brackets. -/
def classCode (m : Mode) (l : Literal) : Except Fault Nat :=
  if m.unicode ∨ l.char.toNat < 0x80 then .ok l.char.toNat
  else if l.octet then refuse .invalidUtf8 l.span
  else refuse .unicodeNotAllowed l.span

def combine (kind : ClassOp) (a b : CharSet) : CharSet :=
  match kind with
  | .intersection => a.inter b
  | .difference => a.diff b
  | .symmetricDifference => a.symmDiff b

mutual

def itemSet (m : Mode) : ClassItem → Except Fault CharSet
  | .empty _ => .ok .empty
  | .literal l => do
    let n ← classCode m l
    return .ofRanges [(n, n)]
  | .range _ low high => do
    let a ← classCode m low
    let b ← classCode m high
    return .ofRanges [(a, b)]
  | .ascii span kind negated => negate m span negated (fold m (asciiSet kind))
  | .letter c => letterSet m c
  | .property c => propertySet m c
  | .bracketed span negated set => do negate m span negated (fold m (← classSet m set))
  | .union _ items => (itemSets m items).map .unions

def itemSets (m : Mode) : List ClassItem → Except Fault (List CharSet)
  | [] => .ok []
  | i :: rest => do
    let s ← itemSet m i
    let sets ← itemSets m rest
    return s :: sets

def classSet (m : Mode) : ClassSet → Except Fault CharSet
  | .item i => itemSet m i
  | .op _ kind left right => do
    let a ← classSet m left
    let b ← classSet m right
    return combine kind (fold m a) (fold m b)

end

/-! ## Expressions -/

/-- The assertion that is made where the flags are as given. -/
def lookFor (m : Mode) : Assertion → Look
  | .lineStart =>
    if ¬ m.multiLine then .textStart else if m.crlf then .anyLineStart else .lineStart
  | .lineEnd => if ¬ m.multiLine then .textEnd else if m.crlf then .anyLineEnd else .lineEnd
  | .textStart => .textStart
  | .textEnd => .textEnd
  | kind => .word kind m.unicode

/-- The characters that a dot stands for. -/
def dotSet (m : Mode) (span : Span) : Except Fault CharSet :=
  if ¬ m.unicode then refuse .invalidUtf8 span
  else if m.dotMatchesNewLine then .ok .all
  else if m.crlf then .ok (CharSet.ofChars ['\n', '\r']).complement
  else .ok (CharSet.singleton '\n').complement

def ofPrimitive (m : Mode) : Primitive → Except Fault Regex
  | .literal l => (literalSet m l).map ofSet
  | .dot span => (dotSet m span).map ofSet
  | .assertion _ kind => .ok (.look (lookFor m kind))
  | .letter c => (letterSet m c).map ofSet
  | .property c => (propertySet m c).map ofSet

mutual

/-- The meaning of an expression, and the flags in force after it. -/
def ofExpr (m : Mode) : Expr → Except Fault (Regex × Mode)
  | .empty _ => .ok (.empty, m)
  | .flags _ items => .ok (.empty, m.adjust items)
  | .primitive p => (ofPrimitive m p).map fun r => (r, m)
  | .bracketed span negated set => do
    let s ← negate m span negated (fold m (← classSet m set))
    return (ofSet s, m)
  | .repetition _ least most greedy body => do
    let (r, m) ← ofExpr m body
    return (repeated least most (greedy != m.swapGreed) r, m)
  | .group _ kind body => do
    match kind with
    | .capture => do
      let (r, _) ← ofExpr m body
      return (.capture r, m)
    | .plain items => do
      let (r, _) ← ofExpr (m.adjust items) body
      return (r, m)
  | .alternation _ branches => do
    let (rs, m) ← ofExprs m branches
    return (choice rs, m)
  | .concat _ parts => do
    let (rs, m) ← ofExprs m parts
    return (sequence rs, m)

def ofExprs (m : Mode) : List Expr → Except Fault (List Regex × Mode)
  | [] => .ok ([], m)
  | e :: rest => do
    let (r, m) ← ofExpr m e
    let (rs, m) ← ofExprs m rest
    return (r :: rs, m)

end

/-- Reads a pattern and gives it its meaning. -/
def ofText (text : String) : Except Fault Regex := do
  let e ← Expr.ofText text
  let (r, _) ← ofExpr .initial e
  return r

end Regex

end GuestWatch.Pattern
