import GuestWatch.Decimal.Shortest

/-! # JSON values

Members of an object keep their order. A number is a whole number of 64 bits, of either sign, or
a number of double precision.
-/
namespace GuestWatch.Json

inductive Number
  | natural (n : Nat)
  | negative (z : Int)
  | real (x : Decimal.Binary64)
deriving DecidableEq, Repr

def Number.text : Number → String
  | .natural n => Text.Decimal.text n
  | .negative z => Text.Decimal.intText z
  | .real x => Decimal.Shortest.text x

inductive Value
  | null
  | bool (b : Bool)
  | number (n : Number)
  | text (s : String)
  | list (items : List Value)
  | object (members : List (String × Value))
deriving Repr, Inhabited

namespace Value

def natural (n : Nat) : Value := .number (.natural n)

def texts (lines : List String) : Value := .list (lines.map .text)

/-- A text where there is one, null otherwise. -/
def ofText? : Option String → Value
  | some s => .text s
  | none => .null

/-- The value of the first member with a given key. -/
def member? (key : String) : Value → Option Value
  | .object members => (members.find? fun m => m.1 == key).map (·.2)
  | _ => none

end Value

end GuestWatch.Json
