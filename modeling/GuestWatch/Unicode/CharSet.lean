/-! # Sets of characters

A set of code points is a list of inclusive ranges in increasing order, no two of which overlap
or touch. The operations keep that form, so equal sets are equal lists. Tables are written as
text: `41-5A` is a range, `AA` a single code point and `100-12E/2` every second code point.
-/
namespace GuestWatch.Unicode

/-- The largest code point. -/
def lastCode : Nat := 0x10FFFF

structure CharSet where
  ranges : List (Nat × Nat)
deriving DecidableEq, Repr, Inhabited

namespace CharSet

def empty : CharSet := ⟨[]⟩

def all : CharSet := ⟨[(0, lastCode)]⟩

/-- Merges ranges that arrive in increasing order of their first code point. -/
def merge : List (Nat × Nat) → List (Nat × Nat)
  | [] => []
  | r :: rest => go r rest
where
  go (cur : Nat × Nat) : List (Nat × Nat) → List (Nat × Nat)
    | [] => [cur]
    | r :: rest =>
      if r.1 ≤ cur.2 + 1 then go (cur.1, max cur.2 r.2) rest else cur :: go r rest

/-- The set of the code points of some ranges, given in any order. -/
def ofRanges (rs : List (Nat × Nat)) : CharSet :=
  ⟨merge ((rs.filter fun r => r.1 ≤ r.2).mergeSort fun a b => a.1 ≤ b.1)⟩

def ofChars (cs : List Char) : CharSet :=
  ofRanges (cs.map fun c => (c.toNat, c.toNat))

def range (low high : Char) : CharSet := ofRanges [(low.toNat, high.toNat)]

def singleton (c : Char) : CharSet := ⟨[(c.toNat, c.toNat)]⟩

/-- Whether a code point is in one of the ranges. -/
def contains (s : CharSet) (code : Nat) : Bool :=
  s.ranges.any fun r => r.1 ≤ code && code ≤ r.2

def union (a b : CharSet) : CharSet := ofRanges (a.ranges ++ b.ranges)

def unions (sets : List CharSet) : CharSet := ofRanges (sets.flatMap (·.ranges))

/-- The gaps between ranges, from `next` on. -/
def gaps (next : Nat) : List (Nat × Nat) → List (Nat × Nat)
  | [] => if next ≤ lastCode then [(next, lastCode)] else []
  | r :: rest => if next < r.1 then (next, r.1 - 1) :: gaps (r.2 + 1) rest else gaps (r.2 + 1) rest

def complement (s : CharSet) : CharSet := ⟨gaps 0 s.ranges⟩

def inter (a b : CharSet) : CharSet := (a.complement.union b.complement).complement

def diff (a b : CharSet) : CharSet := a.inter b.complement

/-- What is in exactly one of two sets. -/
def symmDiff (a b : CharSet) : CharSet := (a.union b).diff (a.inter b)

def isEmpty (s : CharSet) : Bool := s.ranges.isEmpty

/-- Whether all members are below `bound`. -/
def below (s : CharSet) (bound : Nat) : Bool := s.ranges.all fun r => r.2 < bound

/-! ## Written form -/

def hexDigit (c : Char) : Option Nat :=
  if '0' ≤ c ∧ c ≤ '9' then some (c.toNat - 48)
  else if 'A' ≤ c ∧ c ≤ 'F' then some (c.toNat - 55)
  else if 'a' ≤ c ∧ c ≤ 'f' then some (c.toNat - 87)
  else none

/-- The value of a run of hexadecimal digits; anything else counts as zero. -/
def hexValue (cs : List Char) : Nat :=
  cs.foldl (fun n c => n * 16 + (hexDigit c).getD 0) 0

/-- One token of a table: a code point, a range, or every second code point of a range. -/
def tokenRanges (token : String) : List (Nat × Nat) :=
  match token.splitOn "-" with
  | [single] => let n := hexValue single.toList; [(n, n)]
  | [low, high] =>
    match high.splitOn "/" with
    | [top] => [(hexValue low.toList, hexValue top.toList)]
    | top :: _ =>
      let a := hexValue low.toList
      (List.range ((hexValue top.toList - a) / 2 + 1)).map fun i => (a + 2 * i, a + 2 * i)
    | [] => []
  | _ => []

/-- The tokens of a table, which blanks and line feeds separate. `token` is the one being read. -/
def tokens (token : List Char) : List Char → List String
  | [] => if token.isEmpty then [] else [String.ofList token.reverse]
  | c :: rest =>
    if c = ' ' ∨ c = '\n' then
      if token.isEmpty then tokens [] rest else String.ofList token.reverse :: tokens [] rest
    else tokens (c :: token) rest

def ofText (text : String) : CharSet := ofRanges ((tokens [] text.toList).flatMap tokenRanges)

/-! ## Fast membership -/

/-- A set laid out for binary search. -/
structure Index where
  ranges : Array (Nat × Nat)
deriving Inhabited

def index (s : CharSet) : Index := ⟨s.ranges.toArray⟩

/-- Binary search among the ranges from `low` up to, not including, `high`. -/
def Index.search (ix : Index) (code low high : Nat) : Bool :=
  if _h : low < high then
    let mid := (low + high) / 2
    match ix.ranges[mid]? with
    | none => false
    | some r =>
      if code < r.1 then ix.search code low mid
      else if r.2 < code then ix.search code (mid + 1) high
      else true
  else false
termination_by high - low
decreasing_by all_goals omega

def Index.contains (ix : Index) (code : Nat) : Bool := ix.search code 0 ix.ranges.size

end CharSet

end GuestWatch.Unicode
