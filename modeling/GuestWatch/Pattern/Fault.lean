import GuestWatch.Pattern.Span
import GuestWatch.Text.Decimal

/-! # What can be wrong with a pattern

A fault is a cause with the span it concerns, and for repeated things the span of the first one.
Its message shows the pattern with the spans underlined. A pattern of several lines is numbered
and set between rules; a span over several lines is described below it instead.
-/
namespace GuestWatch.Pattern

/-- How deep groups, classes and repetitions may be nested. -/
def nestLimit : Nat := 250

inductive Cause
  | classEscapeInvalid
  | classRangeInvalid
  | classRangeLiteral
  | classUnclosed
  | decimalInvalid
  | escapeHexEmpty
  | escapeHexInvalid
  | escapeHexInvalidDigit
  | escapeUnexpectedEof
  | escapeUnrecognized
  | flagDanglingNegation
  | flagDuplicate
  | flagRepeatedNegation
  | flagUnexpectedEof
  | flagUnrecognized
  | groupNameDuplicate
  | groupNameEmpty
  | groupNameInvalid
  | groupNameUnexpectedEof
  | groupUnclosed
  | groupUnopened
  | nestLimitExceeded
  | repetitionCountInvalid
  | repetitionCountEmpty
  | repetitionCountUnclosed
  | repetitionMissing
  | wordBoundaryUnclosed
  | wordBoundaryUnrecognized
  | wordBoundaryOrRepetitionUnclosed
  | unicodeClassInvalid
  | backreference
  | lookAround
  | unicodeNotAllowed
  | invalidUtf8
  | propertyNotFound
  | propertyValueNotFound
deriving DecidableEq, Repr

def Cause.message : Cause → String
  | .classEscapeInvalid => "invalid escape sequence found in character class"
  | .classRangeInvalid => "invalid character class range, the start must be <= the end"
  | .classRangeLiteral => "invalid range boundary, must be a literal"
  | .classUnclosed => "unclosed character class"
  | .decimalInvalid => "decimal literal invalid"
  | .escapeHexEmpty => "hexadecimal literal empty"
  | .escapeHexInvalid => "hexadecimal literal is not a Unicode scalar value"
  | .escapeHexInvalidDigit => "invalid hexadecimal digit"
  | .escapeUnexpectedEof => "incomplete escape sequence, reached end of pattern prematurely"
  | .escapeUnrecognized => "unrecognized escape sequence"
  | .flagDanglingNegation => "dangling flag negation operator"
  | .flagDuplicate => "duplicate flag"
  | .flagRepeatedNegation => "flag negation operator repeated"
  | .flagUnexpectedEof => "expected flag but got end of regex"
  | .flagUnrecognized => "unrecognized flag"
  | .groupNameDuplicate => "duplicate capture group name"
  | .groupNameEmpty => "empty capture group name"
  | .groupNameInvalid => "invalid capture group character"
  | .groupNameUnexpectedEof => "unclosed capture group name"
  | .groupUnclosed => "unclosed group"
  | .groupUnopened => "unopened group"
  | .nestLimitExceeded =>
    "exceed the maximum number of nested parentheses/brackets (" ++ Text.Decimal.text nestLimit ++
      ")"
  | .repetitionCountInvalid => "invalid repetition count range, the start must be <= the end"
  | .repetitionCountEmpty => "repetition quantifier expects a valid decimal"
  | .repetitionCountUnclosed => "unclosed counted repetition"
  | .repetitionMissing => "repetition operator missing expression"
  | .wordBoundaryUnclosed =>
    "special word boundary assertion is either unclosed or contains an invalid character"
  | .wordBoundaryUnrecognized =>
    "unrecognized special word boundary assertion, valid choices are: start, end, start-half " ++
      "or end-half"
  | .wordBoundaryOrRepetitionUnclosed =>
    "found either the beginning of a special word boundary or a bounded repetition on a \\b " ++
      "with an opening brace, but no closing brace"
  | .unicodeClassInvalid => "invalid Unicode character class"
  | .backreference => "backreferences are not supported"
  | .lookAround => "look-around, including look-ahead and look-behind, is not supported"
  | .unicodeNotAllowed => "Unicode not allowed here"
  | .invalidUtf8 => "pattern can match invalid UTF-8"
  | .propertyNotFound => "Unicode property not found"
  | .propertyValueNotFound => "Unicode property value not found"

structure Fault where
  cause : Cause
  span : Span
  first : Option Span
deriving DecidableEq, Repr

namespace Fault

/-- The lines of a text. What ends a line is a line feed, with a carriage return before it or
not; a text that ends in a line feed has no empty line after it. -/
def linesOf (line : List Char) : List Char → List (List Char)
  | [] => if line.isEmpty then [] else [line.reverse]
  | '\n' :: rest =>
    let done := match line with
      | '\r' :: before => before.reverse
      | _ => line.reverse
    done :: linesOf [] rest
  | c :: rest => linesOf (c :: line) rest

/-- The two spans of a fault in order. -/
def spans (f : Fault) : List Span :=
  match f.first with
  | none => [f.span]
  | some s => if s.start.offset ≤ f.span.start.offset then [s, f.span] else [f.span, s]

/-- Carets under the spans of one line; `column` is the column reached. -/
def carets (column : Nat) : List Span → List Char
  | [] => []
  | s :: rest =>
    let count := max 1 (s.stop.column - s.start.column)
    List.replicate (s.start.column - column) ' ' ++ List.replicate count '^' ++
      carets (max column s.start.column + count) rest

/-- A line number filled up to a width, or the margin of a pattern of one line. -/
def margin (width n : Nat) : List Char :=
  if width = 0 then [' ', ' ', ' ', ' ']
  else
    let ds := Text.Decimal.digits n
    List.replicate (width - ds.length) ' ' ++ ds ++ [':', ' ']

/-- One line of the pattern, with the carets under it where it has some. -/
def notatedLine (f : Fault) (width n : Nat) (line : List Char) : List Char :=
  let here := f.spans.filter fun s => s.isOneLine && s.start.line == n
  let notes :=
    if here.isEmpty then []
    else List.replicate (if width = 0 then 4 else width + 2) ' ' ++ carets 1 here ++ ['\n']
  margin width n ++ line ++ '\n' :: notes

/-- The pattern with its notes. -/
def notated (f : Fault) (width n : Nat) : List (List Char) → List Char
  | [] => []
  | line :: rest => f.notatedLine width n line ++ f.notated width (n + 1) rest

/-- Where a span over several lines begins and ends, in words. -/
def describeSpan (s : Span) : String :=
  "on line " ++ Text.Decimal.text s.start.line ++ " (column " ++
    Text.Decimal.text s.start.column ++ ") through line " ++ Text.Decimal.text s.stop.line ++
    " (column " ++ Text.Decimal.text (s.stop.column - 1) ++ ")"

/-- The message for a fault in a pattern. -/
def message (f : Fault) (pattern : String) : String :=
  let cs := pattern.toList
  let lines := linesOf [] cs
  let count := lines.length + (if cs.getLast? = some '\n' then 1 else 0)
  let width := if count ≤ 1 then 0 else (Text.Decimal.digits count).length
  let body := String.ofList (f.notated width 1 lines)
  if cs.contains '\n' then
    let rule := String.ofList (List.replicate 79 '~') ++ "\n"
    let long := (f.spans.filter fun s => !s.isOneLine).map describeSpan
    let below := if long.isEmpty then "" else "\n".intercalate long ++ "\n"
    "regex parse error:\n" ++ rule ++ body ++ rule ++ below ++ "error: " ++ f.cause.message
  else "regex parse error:\n" ++ body ++ "error: " ++ f.cause.message

end Fault

end GuestWatch.Pattern
