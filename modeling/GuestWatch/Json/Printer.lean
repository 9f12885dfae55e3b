import GuestWatch.Json.Value

/-! # JSON text

Values are written without blanks, or over several lines with two blanks for each level. Strings
escape the quotation mark, the backslash and the controls below the space, and nothing else.
-/
namespace GuestWatch.Json

/-- The letter that stands for a control character after a backslash. -/
def controlLetter? (c : Char) : Option Char :=
  match c with
  | '\x08' => some 'b'
  | '\x0c' => some 'f'
  | '\n' => some 'n'
  | '\r' => some 'r'
  | '\t' => some 't'
  | _ => none

/-- A hexadecimal digit below sixteen, in lower case. -/
def hexDigit (d : Nat) : Char := if d < 10 then Char.ofNat (48 + d) else Char.ofNat (87 + d)

/-- The written form of one character of a string. -/
def escape (c : Char) : List Char :=
  if c = '"' ∨ c = '\\' then ['\\', c]
  else match controlLetter? c with
    | some l => ['\\', l]
    | none =>
      if c.toNat < 0x20 then
        ['\\', 'u', '0', '0', hexDigit (c.toNat / 16), hexDigit (c.toNat % 16)]
      else [c]

/-- The written form of a string, with its quotation marks. -/
def quoteChars (s : String) : List Char := '"' :: (s.toList.flatMap escape ++ ['"'])

namespace Value

/-- How a value is laid out: on one line, or with a line for each item at some depth. -/
inductive Layout
  | compact
  | pretty (depth : Nat)

namespace Layout

/-- The layout of what a list or an object holds. -/
def inner : Layout → Layout
  | .compact => .compact
  | .pretty depth => .pretty (depth + 1)

/-- The start of a line, where the layout has lines. -/
def lineStart : Layout → List Char
  | .compact => []
  | .pretty depth => '\n' :: List.replicate (2 * depth) ' '

/-- What stands between a key and its value. -/
def colon : Layout → List Char
  | .compact => [':']
  | .pretty _ => [':', ' ']

end Layout

mutual

/-- The text of a value. -/
def chars (layout : Layout) : Value → List Char
  | .null => ['n', 'u', 'l', 'l']
  | .bool true => ['t', 'r', 'u', 'e']
  | .bool false => ['f', 'a', 'l', 's', 'e']
  | .number n => n.text.toList
  | .text s => quoteChars s
  | .list [] => ['[', ']']
  | .list (v :: items) =>
    '[' :: (layout.inner.lineStart ++ chars layout.inner v ++ moreItems layout items)
  | .object [] => ['\x7b', '\x7d']
  | .object ((k, v) :: members) =>
    '\x7b' :: (layout.inner.lineStart ++ quoteChars k ++ layout.colon ++ chars layout.inner v ++
      moreMembers layout members)

/-- The text of the items after the first, with the closing bracket. -/
def moreItems (layout : Layout) : List Value → List Char
  | [] => layout.lineStart ++ [']']
  | v :: items =>
    ',' :: (layout.inner.lineStart ++ chars layout.inner v ++ moreItems layout items)

/-- The text of the members after the first, with the closing brace. -/
def moreMembers (layout : Layout) : List (String × Value) → List Char
  | [] => layout.lineStart ++ ['\x7d']
  | (k, v) :: members =>
    ',' :: (layout.inner.lineStart ++ quoteChars k ++ layout.colon ++ chars layout.inner v ++
      moreMembers layout members)

end

def compact (v : Value) : String := String.ofList (v.chars .compact)

def pretty (v : Value) : String := String.ofList (v.chars (.pretty 0))

end Value

end GuestWatch.Json
