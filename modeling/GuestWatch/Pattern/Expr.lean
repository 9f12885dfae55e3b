import GuestWatch.Pattern.Span

/-! # Patterns as written

The tree of a pattern keeps the spans that messages may name. Bracketed classes have a tree of
their own: unions of items, and sets combined by operators.
-/
namespace GuestWatch.Pattern

inductive Flag
  | caseInsensitive
  | multiLine
  | dotMatchesNewLine
  | swapGreed
  | unicode
  | crlf
  | ignoreWhitespace
deriving DecidableEq, Repr

/-- One character of a group of flags: a flag, or the sign that turns off those after it. -/
inductive FlagItem
  | negation
  | flag (f : Flag)
deriving DecidableEq, Repr

abbrev Flags := List (Span × FlagItem)

/-- What a group of flags says about one of them. -/
def Flags.state? (f : Flag) (on : Bool) : Flags → Option Bool
  | [] => none
  | (_, .negation) :: rest => Flags.state? f false rest
  | (_, .flag g) :: rest => if f = g then some on else Flags.state? f on rest

/-- A single character. `octet` marks one written as two hexadecimal digits, which stands for an
octet where characters do not count. -/
structure Literal where
  span : Span
  char : Char
  octet : Bool
deriving DecidableEq, Repr

inductive Assertion
  | lineStart
  | lineEnd
  | textStart
  | textEnd
  | wordBoundary
  | notWordBoundary
  | wordStart
  | wordEnd
  | wordStartHalf
  | wordEndHalf
deriving DecidableEq, Repr

inductive LetterKind
  | digit
  | space
  | word
deriving DecidableEq, Repr

/-- A class written as a letter after a backslash. -/
structure LetterClass where
  span : Span
  kind : LetterKind
  negated : Bool
deriving DecidableEq, Repr

inductive PropertyQuery
  | named (name : String)
  | valued (name value : String) (differs : Bool)
deriving DecidableEq, Repr

/-- A class given by a property. -/
structure PropertyClass where
  span : Span
  negated : Bool
  query : PropertyQuery
deriving DecidableEq, Repr

inductive AsciiKind
  | alnum | alpha | ascii | blank | cntrl | digit | graph | lower | print | punct | space | upper
  | word | xdigit
deriving DecidableEq, Repr

/-- What an escape or a plain character can be, inside or outside of brackets. -/
inductive Primitive
  | literal (l : Literal)
  | dot (span : Span)
  | assertion (span : Span) (kind : Assertion)
  | letter (c : LetterClass)
  | property (c : PropertyClass)
deriving Repr

inductive ClassOp
  | intersection
  | difference
  | symmetricDifference
deriving DecidableEq, Repr

mutual

inductive ClassItem
  | empty (span : Span)
  | literal (l : Literal)
  | range (span : Span) (low high : Literal)
  | ascii (span : Span) (kind : AsciiKind) (negated : Bool)
  | letter (c : LetterClass)
  | property (c : PropertyClass)
  | bracketed (span : Span) (negated : Bool) (set : ClassSet)
  | union (span : Span) (items : List ClassItem)

inductive ClassSet
  | item (i : ClassItem)
  | op (span : Span) (kind : ClassOp) (left right : ClassSet)

end

inductive GroupKind
  | capture
  | plain (flags : Flags)

inductive Expr
  | empty (span : Span)
  | flags (span : Span) (flags : Flags)
  | primitive (p : Primitive)
  | bracketed (span : Span) (negated : Bool) (set : ClassSet)
  | repetition (span : Span) (least : Nat) (most : Option Nat) (greedy : Bool) (body : Expr)
  | group (span : Span) (kind : GroupKind) (body : Expr)
  | alternation (span : Span) (branches : List Expr)
  | concat (span : Span) (parts : List Expr)

namespace Primitive

def span : Primitive → Span
  | .literal l => l.span
  | .dot s => s
  | .assertion s _ => s
  | .letter c => c.span
  | .property c => c.span

end Primitive

namespace ClassItem

def span : ClassItem → Span
  | .empty s | .range s _ _ | .ascii s _ _ | .bracketed s _ _ | .union s _ => s
  | .literal l => l.span
  | .letter c => c.span
  | .property c => c.span

end ClassItem

namespace ClassSet

def span : ClassSet → Span
  | .item i => i.span
  | .op s _ _ _ => s

end ClassSet

namespace Expr

def span : Expr → Span
  | .empty s | .flags s _ | .bracketed s _ _ | .repetition s _ _ _ _ | .group s _ _
  | .alternation s _ | .concat s _ => s
  | .primitive p => p.span

end Expr

end GuestWatch.Pattern
