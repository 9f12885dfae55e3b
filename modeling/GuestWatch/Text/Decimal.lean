/-! # Whole numbers in decimal

Numbers are written with the fewest digits. Reading scans from the left, so of two faults the one
further left is reported; a digit that is none is reported before the number is found too large.
-/
namespace GuestWatch.Text.Decimal

def digitChar (d : Nat) : Char := Char.ofNat (48 + d)

/-- The value of a decimal digit. -/
def digitValue? (c : Char) : Option Nat :=
  if '0' ≤ c ∧ c ≤ '9' then some (c.toNat - 48) else none

/-- The digits of a number, without leading zeros. -/
def digits (n : Nat) : List Char :=
  if n < 10 then [digitChar n] else digits (n / 10) ++ [digitChar (n % 10)]
termination_by n
decreasing_by omega

/-- The decimal text of a number. -/
def text (n : Nat) : String := String.ofList (digits n)

/-- Why a text is not a number of the kind wanted. -/
inductive Fault
  | empty
  | badDigit
  | tooLarge
  | tooSmall
deriving DecidableEq, Repr

def Fault.message : Fault → String
  | .empty => "cannot parse integer from empty string"
  | .badDigit => "invalid digit found in string"
  | .tooLarge => "number too large to fit in target type"
  | .tooSmall => "number too small to fit in target type"

/-- Reads digits up to the end; `bound` is the largest value allowed and `beyond` the fault of
passing it. -/
def scan (bound : Nat) (beyond : Fault) (value : Nat) : List Char → Except Fault Nat
  | [] => .ok value
  | c :: rest =>
    match digitValue? c with
    | none => .error .badDigit
    | some d =>
      let value := value * 10 + d
      if value ≤ bound then scan bound beyond value rest else .error beyond

/-- Reads one digit or more. -/
def scanNonempty (bound : Nat) (beyond : Fault) : List Char → Except Fault Nat
  | [] => .error .badDigit
  | cs => scan bound beyond 0 cs

/-- Reads a number from zero to `bound`, with an optional plus sign. -/
def readUnsigned (bound : Nat) : List Char → Except Fault Nat
  | [] => .error .empty
  | '+' :: rest => scanNonempty bound .tooLarge rest
  | cs => scanNonempty bound .tooLarge cs

/-- Reads a number of 64 bits in two's complement, with an optional sign. -/
def readSigned64 : List Char → Except Fault Int
  | [] => .error .empty
  | '-' :: rest => (scanNonempty (Nat.pow 2 63) .tooSmall rest).map fun n => -(n : Int)
  | '+' :: rest => (scanNonempty (Nat.pow 2 63 - 1) .tooLarge rest).map Int.ofNat
  | cs => (scanNonempty (Nat.pow 2 63 - 1) .tooLarge cs).map Int.ofNat

/-- The largest number of 64 bits. -/
def max64 : Nat := Nat.pow 2 64 - 1

/-- The largest number of 32 bits. -/
def max32 : Nat := Nat.pow 2 32 - 1

/-- The integer as decimal text with a minus sign where it is negative. -/
def intText (z : Int) : String :=
  match z with
  | .ofNat n => text n
  | .negSucc n => "-" ++ text (n + 1)

end GuestWatch.Text.Decimal
