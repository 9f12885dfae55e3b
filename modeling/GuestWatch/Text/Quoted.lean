import GuestWatch.Text.Decimal
import GuestWatch.Unicode.Shown

/-! # Quoted text

Text between double quotes in which every character is either shown as it is or written as an
escape: a letter after a backslash, or the code point in hexadecimal between braces.
-/
namespace GuestWatch.Text.Quoted

/-- Lower-case hexadecimal digits of a number, without leading zeros. -/
def hexDigits (n : Nat) : List Char :=
  if n < 16 then [hexChar n] else hexDigits (n / 16) ++ [hexChar (n % 16)]
termination_by n
decreasing_by omega
where
  /-- The digit of a value below sixteen. -/
  hexChar (d : Nat) : Char := if d < 10 then Char.ofNat (48 + d) else Char.ofNat (87 + d)

/-- The letter that stands for a character after a backslash. -/
def letter? (c : Char) : Option Char :=
  match c with
  | '\x00' => some '0'
  | '\t' => some 't'
  | '\n' => some 'n'
  | '\r' => some 'r'
  | '"' => some '"'
  | '\\' => some '\\'
  | _ => none

/-- The written form of one character. -/
def escape (visible : Char → Bool) (c : Char) : List Char :=
  match letter? c with
  | some l => ['\\', l]
  | none =>
    if visible c then [c]
    else ['\\', 'u', '\x7b'] ++ hexDigits c.toNat ++ ['\x7d']

/-- The written form of a text when `visible` tells which characters show as themselves. -/
def encode (visible : Char → Bool) (cs : List Char) : List Char :=
  '"' :: (cs.flatMap (escape visible) ++ ['"'])

/-- A text in quotes, with what readers cannot see escaped. -/
def quote (text : String) : String := String.ofList (encode Unicode.shown text.toList)

end GuestWatch.Text.Quoted
