import GuestWatch.Pattern.Expr
import GuestWatch.Unicode.Property

/-! # Regular expressions

A regular expression over characters, with assertions about positions. Expressions are put together
by `ofSet`, `repeated`, `sequence` and `choice`, which keep them in a reduced form: no empty parts,
no sequence directly in a sequence nor alternation in an alternation, neighbouring characters in one
text, and what all branches begin with taken out before them.
-/
namespace GuestWatch.Pattern

open GuestWatch.Unicode (CharSet)

/-- What is asserted about a position. -/
inductive Look
  | textStart
  | textEnd
  | lineStart
  | lineEnd
  | anyLineStart
  | anyLineEnd
  | word (kind : Assertion) (unicode : Bool)
deriving DecidableEq, Repr

/-- A regular expression. A `text` is one or more characters in a row, `one` a character of a set.
Whether a repetition is greedy does not matter to whether there is a match. -/
inductive Regex
  | empty
  | text (chars : List Char)
  | one (chars : CharSet)
  | look (l : Look)
  | concat (parts : List Regex)
  | alternation (branches : List Regex)
  | repetition (least : Nat) (most : Option Nat) (greedy : Bool) (body : Regex)
  | capture (body : Regex)
deriving Repr

namespace Regex

/-! ## Lengths -/

/-- The octets that a code point takes. -/
def octetCount (code : Nat) : Nat :=
  if code < 0x80 then 1 else if code < 0x800 then 2 else if code < 0x10000 then 3 else 4

/-- The octets that some characters take. -/
def textLength (cs : List Char) : Nat := cs.foldl (fun n c => n + octetCount c.toNat) 0

/-- The sum of two lengths that may be unknown. -/
def addLengths (a b : Option Nat) : Option Nat := a.bind fun m => b.map (m + ·)

/-- One of two lengths that may be unknown, as `pick` has it. -/
def pickLength (pick : Nat → Nat → Nat) (a b : Option Nat) : Option Nat :=
  a.bind fun m => b.map (pick m)

mutual

/-- The octets of the shortest match. An expression without a match has none. -/
def shortest : Regex → Option Nat
  | .empty | .look _ => some 0
  | .text cs => some (textLength cs)
  | .one s => s.ranges.head?.map fun r => octetCount r.1
  | .concat parts => shortestOfAll parts
  | .alternation branches => shortestOfAny branches
  | .repetition least _ _ body => (shortest body).map (· * least)
  | .capture body => shortest body

def shortestOfAll : List Regex → Option Nat
  | [] => some 0
  | r :: rest => addLengths (shortest r) (shortestOfAll rest)

def shortestOfAny : List Regex → Option Nat
  | [] => none
  | [r] => shortest r
  | r :: rest => pickLength min (shortest r) (shortestOfAny rest)

end

mutual

/-- The octets of the longest match, where there is a bound to them. -/
def longest : Regex → Option Nat
  | .empty | .look _ => some 0
  | .text cs => some (textLength cs)
  | .one s => s.ranges.getLast?.map fun r => octetCount r.2
  | .concat parts => longestOfAll parts
  | .alternation branches => longestOfAny branches
  | .repetition _ most _ body => most.bind fun n => (longest body).map (· * n)
  | .capture body => longest body

def longestOfAll : List Regex → Option Nat
  | [] => some 0
  | r :: rest => addLengths (longest r) (longestOfAll rest)

def longestOfAny : List Regex → Option Nat
  | [] => none
  | [r] => longest r
  | r :: rest => pickLength max (longest r) (longestOfAny rest)

end

/-- Whether an expression matches nothing but the empty text. -/
def onlyEmpty (r : Regex) : Bool := r.longest == some 0

/-- Whether an expression is known not to match the empty text. -/
def isNeverEmpty (r : Regex) : Bool :=
  match r.shortest with
  | some n => 0 < n
  | none => false

/-! ## Sameness -/

mutual

/-- Whether two expressions are the same. A capture is the same as no other. -/
def same : Regex → Regex → Bool
  | .empty, .empty => true
  | .text cs, .text ds => cs == ds
  | .one s, .one t => s == t
  | .look l, .look k => l == k
  | .concat ps, .concat qs => sameAll ps qs
  | .alternation ps, .alternation qs => sameAll ps qs
  | .repetition m n g r, .repetition m' n' g' r' => m == m' && n == n' && g == g' && same r r'
  | _, _ => false

def sameAll : List Regex → List Regex → Bool
  | [], [] => true
  | r :: rs, q :: qs => same r q && sameAll rs qs
  | _, _ => false

end

/-- How many parts two sequences begin with in common. -/
def commonLength : List Regex → List Regex → Nat
  | r :: rs, q :: qs => if same r q then commonLength rs qs + 1 else 0
  | _, _ => 0

/-! ## Putting expressions together -/

def surrogates : CharSet := Unicode.Category.surrogates

/-- One character of a set; a set of one is a text. -/
def ofSet (s : CharSet) : Regex :=
  let s := s.diff surrogates
  match s.ranges with
  | [(a, b)] => if a = b then .text [Char.ofNat a] else .one s
  | _ => .one s

/-- A repeated expression. What matches nothing but the empty text is repeated once at most. -/
def repeated (least : Nat) (most : Option Nat) (greedy : Bool) (body : Regex) : Regex :=
  let (least, most) :=
    if body.onlyEmpty then (min least 1, some (min (most.getD 1) 1)) else (least, most)
  if least = 0 ∧ most = some 0 then .empty
  else if least = 1 ∧ most = some 1 then body
  else .repetition least most greedy body

/-- The parts of an expression taken as a sequence. -/
def parts : Regex → List Regex
  | .empty => []
  | .concat ps => ps
  | r => [r]

/-- Joins neighbouring texts. -/
def joinTexts : List Regex → List Regex
  | [] => []
  | .text cs :: rest =>
    match joinTexts rest with
    | .text ds :: more => .text (cs ++ ds) :: more
    | joined => .text cs :: joined
  | r :: rest => r :: joinTexts rest

/-- Expressions one after another. -/
def sequence (rs : List Regex) : Regex :=
  match joinTexts (rs.flatMap parts) with
  | [] => .empty
  | [r] => r
  | ps => .concat ps

/-- The branches of an expression taken as an alternation. -/
def branches : Regex → List Regex
  | .alternation bs => bs
  | r => [r]

/-- The character of a text of one. -/
def char? : Regex → Option Char
  | .text [c] => some c
  | _ => none

/-- The set of an expression that matches one character of it. -/
def set? : Regex → Option CharSet
  | .one s => some s
  | _ => none

/-- The parts of a sequence. -/
def concat? : Regex → Option (List Regex)
  | .concat ps => some ps
  | _ => none

/-- What all of some sequences begin with, and their rests. -/
def liftStart? : List (List Regex) → Option (List Regex × List (List Regex))
  | [] => none
  | first :: rest =>
    let n := rest.foldl (fun n ps => min n (commonLength first ps)) first.length
    if n = 0 then none else some (first.take n, (first :: rest).map (List.drop n))

mutual

/-- How many expressions an expression consists of. -/
def nodes : Regex → Nat
  | .concat ps | .alternation ps => nodesOfAll ps + 1
  | .repetition _ _ _ r | .capture r => nodes r + 1
  | _ => 1

def nodesOfAll : List Regex → Nat
  | [] => 0
  | r :: rest => nodes r + nodesOfAll rest

end

/-- A choice between expressions, where beginnings are taken out at most `fuel` times. Characters
and sets on their own become one set. -/
def choiceWith : Nat → List Regex → Regex
  | fuel, rs =>
    match rs.flatMap branches with
    | [] => .one .empty
    | [r] => r
    | bs =>
      if let some cs := bs.mapM char? then ofSet (.ofChars cs)
      else if let some sets := bs.mapM set? then ofSet (.unions sets)
      else match fuel, (bs.mapM concat?).bind liftStart? with
        | fuel + 1, some (start, rests) =>
          sequence (start ++ [choiceWith fuel (rests.map sequence)])
        | _, _ => .alternation bs

/-- A choice between expressions. Taking out a beginning leaves fewer of them, so that the number of
expressions bounds how often it can be done. -/
def choice (rs : List Regex) : Regex := choiceWith (nodesOfAll rs) rs

end Regex

end GuestWatch.Pattern
