import GuestWatch.Pattern.Parser.Escape

/-! # Repetition operators

Operators apply to the expression before them. Counts are written between braces; blanks around
them never matter.
-/
namespace GuestWatch.Pattern.Parser

/-- Expressions that follow one another, last one first, and where they began. -/
structure Sequence where
  start : Position
  parts : List Expr

namespace Sequence

/-- The expressions up to a position as one. -/
def toExpr (s : Sequence) (stop : Position) : Expr :=
  match s.parts with
  | [] => .empty ⟨s.start, stop⟩
  | [e] => e
  | parts => .concat ⟨s.start, stop⟩ parts.reverse

def push (s : Sequence) (e : Expr) : Sequence := { s with parts := e :: s.parts }

end Sequence

/-- The last expression of a sequence, which an operator takes, and those before it. -/
def operand (s : Sequence) : Parser (Expr × List Expr) := do
  match s.parts with
  | [] => fail .repetitionMissing (← here)
  | .empty _ :: _ => fail .repetitionMissing (← here)
  | .flags _ _ :: _ => fail .repetitionMissing (← here)
  | e :: before => return (e, before)

/-- A sequence whose last expression is repeated. -/
def repeated (s : Sequence) (e : Expr) (before : List Expr) (least : Nat) (most : Option Nat)
    (greedy : Bool) : Parser Sequence := do
  return { s with parts := .repetition ⟨e.span.start, ← pos⟩ least most greedy e :: before }

/-- Moves past the operator's last character, and past the mark that makes it lazy if that comes
next; answers whether the operator is greedy. -/
def greed (past : Parser Bool) : Parser Bool := do
  if ← past then
    if (← next?) = some '?' then
      let _ ← bump
      return false
  return true

/-- An operator of one character. -/
def simpleRepetition (s : Sequence) (least : Nat) (most : Option Nat) : Parser Sequence := do
  let (e, before) ← operand s
  let greedy ← greed bump
  repeated s e before least most greedy

/-- Moves past blanks, whether they are ignored or not. -/
def skipBlank (blanksToo : Bool) : Nat → Parser Unit
  | 0 => return ()
  | left + 1 => do
    if (← next?).any Text.isBlank then
      if blanksToo then
        let _ ← bumpBlanks
      else
        let _ ← bump
      skipBlank blanksToo left

/-- Digits, with blanks between them where those are ignored. -/
def decimalDigits (read : List Char) : Nat → Parser (List Char)
  | 0 => return read
  | left + 1 => do
    match ← next? with
    | some c =>
      if c.isDigit then
        let _ ← bumpBlanks
        decimalDigits (c :: read) left
      else return read
    | none => return read

/-- A count of 32 bits, or the fault that it is. The fault is raised only where the count is
needed. -/
def decimal : Parser (Except Fault Nat) := do
  skipBlank false (← fuel)
  let start ← pos
  let read ← decimalDigits [] (← fuel)
  let span : Span := ⟨start, ← pos⟩
  skipBlank true (← fuel)
  if read.isEmpty then return .error ⟨.repetitionCountEmpty, span, none⟩
  match Text.Decimal.scan Text.Decimal.max32 .tooLarge 0 read.reverse with
  | .ok n => return .ok n
  | .error _ => return .error ⟨.decimalInvalid, span, none⟩

/-- The value of a count that is needed. -/
def needed (count : Except Fault Nat) : Parser Nat := fun s => count.map fun n => (n, s)

/-- An operator with counts between braces. -/
def countedRepetition (s : Sequence) : Parser Sequence := do
  let start ← pos
  let (e, before) ← operand s
  if ¬ (← bumpBlanks) then fail .repetitionCountUnclosed ⟨start, ← pos⟩
  let first ← decimal
  let (least, most) ← match ← next? with
    | none => fail .repetitionCountUnclosed ⟨start, ← pos⟩
    | some ',' => do
      if ¬ (← bumpBlanks) then fail .repetitionCountUnclosed ⟨start, ← pos⟩
      if (← next?) ≠ some '\x7d' then
        let low ← needed first
        let high ← needed (← decimal)
        pure (low, some high)
      else pure (← needed first, none)
    | some _ => do
      let n ← needed first
      pure (n, some n)
  if (← next?) ≠ some '\x7d' then fail .repetitionCountUnclosed ⟨start, ← pos⟩
  let greedy ← greed bumpBlanks
  match most with
  | some high => if high < least then fail .repetitionCountInvalid ⟨start, ← pos⟩
  | none => pure ()
  repeated s e before least most greedy

end GuestWatch.Pattern.Parser
