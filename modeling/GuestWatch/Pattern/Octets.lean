import GuestWatch.Unicode.CharSet

/-! # Sets of characters as octets

A set of characters is a list of sequences of octet ranges: every choice of one octet from each
range of a sequence is a character of the set in UTF-8, and all characters come about so. The
sequences are in increasing order.
-/
namespace GuestWatch.Pattern

open GuestWatch.Unicode (CharSet)

/-- The range of values of one octet. -/
structure OctetRange where
  low : Nat
  high : Nat
deriving DecidableEq, Repr

/-- One range for each octet. -/
abbrev OctetSeq := List OctetRange

namespace OctetSeq

/-- The octets of a code point, first one first. -/
def octets (n : Nat) : List Nat :=
  if n < 0x80 then [n]
  else if n < 0x800 then [0xC0 + n / 64, 0x80 + n % 64]
  else if n < 0x10000 then [0xE0 + n / 4096, 0x80 + n / 64 % 64, 0x80 + n % 64]
  else [0xF0 + n / 262144, 0x80 + n / 4096 % 64, 0x80 + n / 64 % 64, 0x80 + n % 64]

/-- Where a range of code points has to be cut so that its octets vary independently. -/
def cut? (low high : Nat) : Option Nat :=
  match [0x7F, 0x7FF, 0xFFFF].find? fun e => low ≤ e && e < high with
  | some e => some (e + 1)
  | none =>
    if high < 0x80 then none
    else [64, 4096, 262144].findSome? fun block =>
      if low / block = high / block then none
      else if low % block ≠ 0 then some ((low / block + 1) * block)
      else if high % block ≠ block - 1 then some (high / block * block)
      else none

/-- The sequences of a range of code points, where fewer than `fuel` cuts lead to each of them. -/
def ofRange (low high : Nat) : Nat → List OctetSeq
  | 0 => []
  | fuel + 1 =>
    match cut? low high with
    | some m => ofRange low (m - 1) fuel ++ ofRange m high fuel
    | none => [(octets low).zipWith OctetRange.mk (octets high)]

/-- The most cuts on the way to a sequence: three between the lengths of characters and two for
each octet but the first. -/
def maxCuts : Nat := 9

/-- The sequences of a set without surrogates. -/
def ofSet (s : CharSet) : List OctetSeq :=
  s.ranges.flatMap fun r => ofRange r.1 r.2 (maxCuts + 1)

/-- Sequences grouped by their first range, which stands before what follows it in each of them. -/
def group : List OctetSeq → List (OctetRange × List OctetSeq)
  | [] => []
  | [] :: rest => group rest
  | (r :: tail) :: rest =>
    match group rest with
    | (r', tails) :: more =>
      if r = r' then (r, tail :: tails) :: more else (r, [tail]) :: (r', tails) :: more
    | [] => [(r, [tail])]

end OctetSeq

end GuestWatch.Pattern
