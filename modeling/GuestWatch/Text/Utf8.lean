/-! # UTF-8

Reading never fails. The decoder is an automaton over octets: it is either between characters or
owes some continuation octets, the next of which must lie in a given interval. An octet that does
not fit ends the character begun with one replacement character and is then read afresh, so each
maximal ill-formed piece gives one replacement character.
-/
namespace GuestWatch.Text.Utf8

/-- Where the decoder stands. `inside left low high code` owes `left + 1` more octets, the next of
them between `low` and `high`; `code` holds the bits read so far. -/
inductive State
  | start
  | inside (left : Nat) (low high : UInt8) (code : Nat)
deriving DecidableEq, Repr

/-- Stands for a piece of the input that is not well formed. -/
def replacement : Char := '\uFFFD'

/-- What an octet does between characters. -/
def lead (b : UInt8) : List Char × State :=
  if b < 0x80 then ([Char.ofNat b.toNat], .start)
  else if b < 0xC2 then ([replacement], .start)
  else if b < 0xE0 then ([], .inside 0 0x80 0xBF (b.toNat - 0xC0))
  else if b = 0xE0 then ([], .inside 1 0xA0 0xBF 0)
  else if b = 0xED then ([], .inside 1 0x80 0x9F 0x0D)
  else if b < 0xF0 then ([], .inside 1 0x80 0xBF (b.toNat - 0xE0))
  else if b = 0xF0 then ([], .inside 2 0x90 0xBF 0)
  else if b < 0xF4 then ([], .inside 2 0x80 0xBF (b.toNat - 0xF0))
  else if b = 0xF4 then ([], .inside 2 0x80 0x8F 4)
  else ([replacement], .start)

/-- What an octet does in a state: the characters it completes and the state after it. -/
def step : State → UInt8 → List Char × State
  | .start, b => lead b
  | .inside left low high code, b =>
    if low ≤ b ∧ b ≤ high then
      let code := code * 64 + (b.toNat - 0x80)
      match left with
      | 0 => ([Char.ofNat code], .start)
      | left + 1 => ([], .inside left 0x80 0xBF code)
    else (replacement :: (lead b).1, (lead b).2)

/-- What is left to say when the input ends. -/
def close : State → List Char
  | .start => []
  | .inside .. => [replacement]

/-- Decoding from a state on. -/
def decodeFrom : State → List UInt8 → List Char
  | s, [] => close s
  | s, b :: bytes => (step s b).1 ++ decodeFrom (step s b).2 bytes

/-- The characters of a byte sequence; what is ill formed is replaced. -/
def decodeChars (bytes : List UInt8) : List Char := decodeFrom .start bytes

/-- The text of a byte sequence; what is ill formed is replaced. -/
def decode (bytes : List UInt8) : String := String.ofList (decodeChars bytes)

def encodeChars (cs : List Char) : List UInt8 := cs.flatMap String.utf8EncodeChar

def encode (text : String) : List UInt8 := encodeChars text.toList

/-- The text of a byte sequence that is well formed throughout. -/
def decode? (bytes : List UInt8) : Option String :=
  let text := decode bytes
  if encode text = bytes then some text else none

/-- Takes characters off a byte sequence as long as it begins with their encodings. -/
def splitChars : List Char → List UInt8 → List Char × List UInt8
  | [], bytes => ([], bytes)
  | c :: cs, bytes =>
    let code := String.utf8EncodeChar c
    if code.isPrefixOf bytes then
      let (taken, rest) := splitChars cs (bytes.drop code.length)
      (c :: taken, rest)
    else ([], bytes)

/-- The characters before the first ill-formed piece, and the octets from there on. -/
def wellFormedStart (bytes : List UInt8) : List Char × List UInt8 :=
  splitChars (decodeChars bytes) bytes

theorem decodeFrom_nil (s : State) : decodeFrom s [] = close s := by
  cases s <;> rfl

theorem decodeFrom_cons (s : State) (b : UInt8) (bytes : List UInt8) :
    decodeFrom s (b :: bytes) = (step s b).1 ++ decodeFrom (step s b).2 bytes := by
  cases s <;> rfl

theorem encodeChars_append (a b : List Char) :
    encodeChars (a ++ b) = encodeChars a ++ encodeChars b := by
  simp [encodeChars]

end GuestWatch.Text.Utf8
