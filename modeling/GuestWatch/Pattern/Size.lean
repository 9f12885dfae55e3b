import GuestWatch.Pattern.Octets
import GuestWatch.Pattern.Regex
import Std.Data.HashMap

/-! # Sizes of patterns

The size of a pattern is the storage of two automata over octets that would find its matches, one
reading forwards and one backwards. Only their states and branches are counted, and the count stops
where it passes the limit, so that a pattern that is too large is refused before anything is built
from it.

States are numbered in the order in which they come. Sets of characters beyond ASCII share states
where a recall table knows of them. Such a table has few places and forgets what a later entry
displaces, so how much is shared depends on the numbers too.
-/
namespace GuestWatch.Pattern.Size

open GuestWatch.Unicode (CharSet)

/-! ## Counting -/

/-- How many states there are, and what they take beyond their own storage. -/
structure Usage where
  states : Nat
  extra : Nat
deriving DecidableEq, Repr

/-- What a state takes. -/
def state : Nat := 32

/-- What each transition takes in a state with several. -/
def transition : Nat := 8

/-- What each branch takes that reads nothing. -/
def branch : Nat := 4

/-- The largest size allowed. -/
def limit : Nat := 10485760

def Usage.total (u : Usage) : Nat := u.states * state + u.extra

/-- Takes up more, as far as the limit allows. -/
def Usage.grow? (u : Usage) (states extra : Nat) : Option Usage :=
  let grown : Usage := ⟨u.states + states, u.extra + extra⟩
  if grown.total ≤ limit then some grown else none

/-- Takes up what `once` does several times. -/
def times (once : Usage → Option Usage) (u : Usage) : Nat → Option Usage
  | 0 => some u
  | n + 1 =>
    match once u with
    | some grown => times once grown n
    | none => none

/-! ## Recall -/

/-- A table from keys to the numbers of states, with one entry at most in each of its places. -/
structure Recall where
  places : Nat
  entries : Std.HashMap Nat (List Nat × Nat)

namespace Recall

def empty (places : Nat) : Recall := ⟨places, ∅⟩

/-- Works a number into a running hash. -/
def mix (hash : UInt64) (n : Nat) : UInt64 := (hash ^^^ .ofNat n) * 1099511628211

def hash (key : List Nat) : UInt64 := key.foldl mix 14695981039346656037

/-- The place of a key. -/
def place (r : Recall) (key : List Nat) : Nat := (hash key).toNat % r.places

/-- The state of a key, unless it is not known or forgotten. -/
def find? (r : Recall) (key : List Nat) : Option Nat :=
  match r.entries[r.place key]? with
  | some (kept, n) => if kept = key then some n else none
  | none => none

/-- Keeps the state of a key; what was in its place is forgotten. -/
def keep (r : Recall) (key : List Nat) (n : Nat) : Recall :=
  { r with entries := r.entries.insert (r.place key) (key, n) }

end Recall

/-! ## Sets of characters -/

/-- How many places there are when reading forwards. -/
def forwardPlaces : Nat := 10000

/-- How many places there are when reading backwards. -/
def backwardPlaces : Nat := 1000

/-- What has been taken up and what is recalled, while the states of one set come about. -/
abbrev Progress := Usage × Recall

/-- Takes up the states that read some sequences, the last octets' states first, and answers the
number of the first octet's. A state is recalled by its transitions; `target` follows the last
octet. -/
def forwardStates (target : Nat) : Nat → List OctetSeq → Progress → Option (Nat × Progress)
  | 0, _, progress => some (target, progress)
  | _ + 1, [[]], progress => some (target, progress)
  | depth + 1, seqs, progress => do
    let groups := OctetSeq.group seqs
    let step := fun (acc : List Nat × Progress) (g : OctetRange × List OctetSeq) => do
      let (next, progress) ← forwardStates target depth g.2 acc.2
      return (acc.1 ++ [g.1.low, g.1.high, next], progress)
    let (key, usage, known) ← groups.foldlM step ([], progress)
    match known.find? key with
    | some n => return (n, usage, known)
    | none =>
      let grown ← usage.grow? 1 (groups.length * transition)
      return (usage.states, grown, known.keep key usage.states)

/-- The most octets of a character. -/
def maxOctets : Nat := 4

/-- Takes up a set of characters, reading forwards. -/
def forwardSet (seqs : List OctetSeq) (u : Usage) : Option Usage := do
  let grown ← u.grow? 1 0
  let (_, usage, _) ← forwardStates u.states (maxOctets + 1) seqs (grown, .empty forwardPlaces)
  return usage

/-- Takes up the states of one sequence, reading backwards. Each is recalled by its range and the
state it leads to; the first octet's leads to `next`. -/
def backwardStates (next : Nat) : OctetSeq → Progress → Option Progress
  | [], progress => some progress
  | r :: rest, (usage, known) => do
    let key := [next, r.low, r.high]
    match known.find? key with
    | some n => backwardStates n rest (usage, known)
    | none =>
      let grown ← usage.grow? 1 0
      backwardStates usage.states rest (grown, known.keep key usage.states)

/-- Takes up a set of characters, reading backwards: a branch for each sequence. -/
def backwardSet (seqs : List OctetSeq) (u : Usage) : Option Usage := do
  let grown ← u.grow? 2 0
  let step := fun (progress : Progress) (seq : OctetSeq) => do
    let (usage, known) ← backwardStates (u.states + 1) seq progress
    return (← usage.grow? 0 branch, known)
  let (usage, _) ← seqs.foldlM step (grown, .empty backwardPlaces)
  return usage

/-- Takes up a set of characters. One state is enough for ASCII characters. -/
def ofSet (backwards : Bool) (s : CharSet) : Usage → Option Usage :=
  if s.below 0x80 then fun u => u.grow? 2 (s.ranges.length * transition)
  else
    let seqs := OctetSeq.ofSet s
    if backwards then backwardSet seqs else forwardSet seqs

/-! ## Texts to choose from -/

/-- Lists cut at the empty ones, which end a piece each. Where nothing has come yet, several empty
ones count as one. -/
def pieces : List (List Nat) → List (List (List Nat))
  | [] => [[]]
  | [] :: rest =>
    match rest with
    | [] :: _ => pieces rest
    | _ => [] :: cutAtEmpty rest
  | text :: rest => cutAtEmpty (text :: rest)
where
  /-- The pieces once something has come. -/
  cutAtEmpty : List (List Nat) → List (List (List Nat))
    | [] => [[]]
    | [] :: rest => [] :: cutAtEmpty rest
    | text :: rest =>
      match cutAtEmpty rest with
      | piece :: more => (text :: piece) :: more
      | [] => [[text]]

/-- What follows a first octet in some lists. -/
def tailsAfter (b : Nat) (texts : List (List Nat)) : List (List Nat) :=
  texts.filterMap fun text =>
    match text with
    | c :: tail => if c = b then some tail else none
    | [] => none

def sum (us : List Usage) : Usage := ⟨us.foldl (· + ·.states) 0, us.foldl (· + ·.extra) 0⟩

/-- What a choice between texts takes, which are given by their octets: a tree in which the texts of
a piece share their beginnings. Each node branches to its pieces and, between them, to the end. -/
def ofTexts : Nat → List (List Nat) → Usage
  | 0, _ => ⟨0, 0⟩
  | depth + 1, texts =>
    if texts.all List.isEmpty then ⟨0, 0⟩
    else
      let parts := pieces texts
      let branches := (parts.filter (!·.isEmpty)).length + parts.length - 1
      let ofPiece := fun (piece : List (List Nat)) =>
        let firsts := (piece.filterMap List.head?).eraseDups
        let own : Usage := ⟨1, if firsts.length = 1 then 0 else firsts.length * transition⟩
        if piece.isEmpty then ⟨0, 0⟩
        else sum (own :: firsts.map fun b => ofTexts depth (tailsAfter b piece))
      sum (⟨1, branches * branch⟩ :: parts.map ofPiece)

/-- The octets of a text in the order of reading. -/
def readOctets (backwards : Bool) (cs : List Char) : List Nat :=
  let bytes := cs.flatMap fun c => OctetSeq.octets c.toNat
  if backwards then bytes.reverse else bytes

/-- Takes up a choice between texts, with the state that follows them. -/
def textChoice (backwards : Bool) (texts : List (List Char)) (u : Usage) : Option Usage :=
  let read := texts.map (readOctets backwards)
  let depth := (read.map List.length).foldl max 0
  let tree := ofTexts (depth + 1) read
  u.grow? (tree.states + 1) tree.extra

/-! ## Expressions -/

/-- The characters of a text. -/
def text? : Regex → Option (List Char)
  | .text cs => some cs
  | _ => none

/-- Takes up a repetition of what `once` takes up. What may match the empty text needs another state
to be repeated any number of times. -/
def repetition (least : Nat) (most : Option Nat) (neverEmpty : Bool)
    (once : Usage → Option Usage) (u : Usage) : Option Usage :=
  let optional := fun (u : Usage) => (u.grow? 1 (2 * branch)).bind once
  match least, most with
  | 0, some 1 => (optional u).bind fun u => u.grow? 1 0
  | 0, none =>
    if neverEmpty then optional u else (once u).bind fun u => u.grow? 3 (4 * branch)
  | least, none => (times once u least).bind fun u => u.grow? 1 (2 * branch)
  | least, some most =>
    let start := if least = 0 then u.grow? 1 0 else times once u least
    if least = most then start
    else (start.bind fun u => u.grow? 1 0).bind fun u => times optional u (most - least)

mutual

/-- Takes up an expression. Only reading forwards are captures recorded. -/
def ofRegex (backwards : Bool) : Regex → Usage → Option Usage
  | .empty, u | .look _, u => u.grow? 1 0
  | .text cs, u => u.grow? (Regex.textLength cs) 0
  | .one s, u => ofSet backwards s u
  | .concat parts, u => ofParts backwards parts u
  | .alternation branches, u =>
    match branches.mapM text? with
    | some texts => textChoice backwards texts u
    | none => ofBranches backwards 0 branches u
  | .repetition least most _ body, u =>
    repetition least most body.isNeverEmpty (ofRegex backwards body) u
  | .capture body, u =>
    if backwards then ofRegex backwards body u
    else ((u.grow? 1 0).bind (ofRegex backwards body)).bind fun u => u.grow? 1 0

/-- Takes up expressions one after another, as they are read. -/
def ofParts (backwards : Bool) : List Regex → Usage → Option Usage
  | [], u => some u
  | r :: rest, u =>
    if backwards then (ofParts backwards rest u).bind (ofRegex backwards r)
    else (ofRegex backwards r u).bind (ofParts backwards rest)

/-- Takes up the branches of a choice, of which some came before. The states where the choice begins
and ends come after the second one. -/
def ofBranches (backwards : Bool) (before : Nat) : List Regex → Usage → Option Usage
  | [], u => some u
  | r :: rest, u =>
    let ends := if before = 1 then 2 else 0
    ((ofRegex backwards r u).bind fun u => u.grow? ends branch).bind
      (ofBranches backwards (before + 1) rest)

end

/-! ## Patterns -/

mutual

/-- Whether a match can only begin where the text does or, seen backwards, only end where the text
does. -/
def isAnchored (backwards : Bool) : Regex → Bool
  | .look l => l == if backwards then .textEnd else .textStart
  | .concat parts =>
    if backwards then (endOfParts backwards parts).1 else isAnyFirst backwards parts
  | .alternation branches => areAllAnchored backwards branches
  | .repetition least _ _ body => 0 < least && isAnchored backwards body
  | .capture body => isAnchored backwards body
  | _ => false

/-- Whether one of the parts that a match begins with is anchored. -/
def isAnyFirst (backwards : Bool) : List Regex → Bool
  | [] => false
  | r :: rest => isAnchored backwards r || (r.onlyEmpty && isAnyFirst backwards rest)

/-- Whether one of the parts that a match ends with is anchored, and whether all parts match the
empty text only. -/
def endOfParts (backwards : Bool) : List Regex → Bool × Bool
  | [] => (false, true)
  | r :: rest =>
    let (anchored, empty) := endOfParts backwards rest
    (anchored || (empty && isAnchored backwards r), empty && r.onlyEmpty)

def areAllAnchored (backwards : Bool) : List Regex → Bool
  | [] => true
  | r :: rest => isAnchored backwards r && areAllAnchored backwards rest

end

/-- What an automaton takes: states that skip what is before a match, the states of the expression
as a capture, and the one that accepts. -/
def automaton? (backwards : Bool) (r : Regex) : Option Usage := do
  let nothing : Usage := ⟨0, 0⟩
  let start ←
    if isAnchored backwards r then nothing.grow? 1 0
    else nothing.grow? 3 (transition + 2 * branch)
  let body ← ofRegex backwards (.capture r) start
  body.grow? 1 0

/-- From so many texts on, a choice between texts needs no automaton. -/
def manyTexts : Nat := 3000

/-- Whether an expression is a choice between very many texts. -/
def isWordList : Regex → Bool
  | .alternation branches => manyTexts ≤ branches.length && (branches.mapM text?).isSome
  | _ => false

/-- Whether an expression is within the limit in both directions. -/
def fits (r : Regex) : Bool :=
  isWordList r || ((automaton? false r).isSome && (automaton? true r).isSome)

end GuestWatch.Pattern.Size
