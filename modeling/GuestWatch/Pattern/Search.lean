import GuestWatch.Pattern.Regex

/-! # Searching

A regular expression is compiled to a program whose instructions read a character, assert
something about the position, fork, or accept. A search follows all ways through the program at
once, from every position of the text, and visits an instruction at most once for each position.
-/
namespace GuestWatch.Pattern

open GuestWatch.Unicode (CharSet)

inductive Instr
  | read (set : CharSet.Index) (next : Nat)
  | look (l : Look) (next : Nat)
  | fork (next : List Nat)
  | accept
deriving Inhabited

/-- A program with the instruction it starts at. -/
structure Program where
  code : Array Instr
  start : Nat

namespace Program

/-- Adds an instruction and answers its number. -/
def emit (code : Array Instr) (i : Instr) : Nat × Array Instr := (code.size, code.push i)

/-- Puts several copies before an instruction. -/
def copies (build : Nat → Array Instr → Nat × Array Instr) (next : Nat) (code : Array Instr) :
    Nat → Nat × Array Instr
  | 0 => (next, code)
  | n + 1 =>
    let (start, code) := build next code
    copies build start code n

/-- Puts several copies before an instruction, each of which may be left out with those after
it. -/
def optionalCopies (build : Nat → Array Instr → Nat × Array Instr) (leave next : Nat)
    (code : Array Instr) : Nat → Nat × Array Instr
  | 0 => (next, code)
  | n + 1 =>
    let (start, code) := build next code
    let (fork, code) := emit code (.fork [start, leave])
    optionalCopies build leave fork code n

/-- Puts any number of copies before an instruction. -/
def anyCopies (build : Nat → Array Instr → Nat × Array Instr) (next : Nat) (code : Array Instr) :
    Nat × Array Instr :=
  let (loop, code) := emit code (.fork [])
  let (start, code) := build loop code
  (loop, code.setIfInBounds loop (.fork [start, next]))

mutual

/-- Puts an expression before the instruction `next`; answers where it starts. -/
def compile : Regex → Nat → Array Instr → Nat × Array Instr
  | .empty, next, code => (next, code)
  | .text cs, next, code =>
    cs.foldr (fun c acc => emit acc.2 (.read (CharSet.singleton c).index acc.1)) (next, code)
  | .one s, next, code => emit code (.read s.index next)
  | .look l, next, code => emit code (.look l next)
  | .concat parts, next, code => compileAll parts next code
  | .alternation branches, next, code =>
    let (starts, code) := compileEach branches next code
    emit code (.fork starts)
  | .repetition least most _ body, next, code =>
    let build := fun next code => compile body next code
    match most with
    | none =>
      let (start, code) := anyCopies build next code
      copies build start code least
    | some most =>
      let (start, code) := optionalCopies build next next code (most - least)
      copies build start code (min least most)
  | .capture body, next, code => compile body next code

/-- Puts expressions one after another. -/
def compileAll : List Regex → Nat → Array Instr → Nat × Array Instr
  | [], next, code => (next, code)
  | r :: rest, next, code =>
    let (start, code) := compileAll rest next code
    compile r start code

/-- Puts each of some expressions before the same instruction. -/
def compileEach : List Regex → Nat → Array Instr → List Nat × Array Instr
  | [], _, code => ([], code)
  | r :: rest, next, code =>
    let (start, code) := compile r next code
    let (starts, code) := compileEach rest next code
    (start :: starts, code)

end

def ofRegex (r : Regex) : Program :=
  let (start, code) := compile r 0 #[.accept]
  ⟨code, start⟩

/-! ## Positions -/

def wordIndex : CharSet.Index := Unicode.Property.wordCharacters.index

def isAsciiWord (c : Char) : Bool := c.isAlphanum || c == '_'

/-- Whether there is a word character next to a position. -/
def wordAt (unicode : Bool) : Option Char → Bool
  | none => false
  | some c => if unicode then wordIndex.contains c.toNat else isAsciiWord c

/-- Whether an assertion holds between two characters. -/
def holds (before after : Option Char) : Look → Bool
  | .textStart => before.isNone
  | .textEnd => after.isNone
  | .lineStart => before.isNone || before == some '\n'
  | .lineEnd => after.isNone || after == some '\n'
  | .anyLineStart =>
    before.isNone || before == some '\n' || (before == some '\r' && after != some '\n')
  | .anyLineEnd =>
    after.isNone || after == some '\r' || (after == some '\n' && before != some '\r')
  | .word kind unicode =>
    let b := wordAt unicode before
    let a := wordAt unicode after
    match kind with
    | .wordBoundary => b != a
    | .notWordBoundary => b == a
    | .wordStart => !b && a
    | .wordEnd => b && !a
    | .wordStartHalf => !b
    | .wordEndHalf => !a
    | _ => false

/-! ## The search -/

/-- What is known at a position: when each instruction was visited last, the reading instructions
reached, and whether the program accepts. -/
structure Front where
  visited : Array Nat
  reading : List Nat
  accepts : Bool

/-- Visits the instructions of a list and those they lead to without reading. `stamp` tells this
position from earlier ones. -/
def visit (code : Array Instr) (before after : Option Char) (stamp : Nat) :
    Nat → List Nat → Front → Front
  | 0, _, front => front
  | _, [], front => front
  | fuel + 1, i :: pending, front =>
    if front.visited.getD i 0 = stamp then visit code before after stamp fuel pending front
    else
      let front := { front with visited := front.visited.setIfInBounds i stamp }
      match code[i]? with
      | none => visit code before after stamp fuel pending front
      | some .accept => { front with accepts := true }
      | some (.read _ _) =>
        visit code before after stamp fuel pending { front with reading := i :: front.reading }
      | some (.look l next) =>
        let pending := if holds before after l then next :: pending else pending
        visit code before after stamp fuel pending front
      | some (.fork next) => visit code before after stamp fuel (next ++ pending) front

/-- How many steps a visit takes at most, beyond the length of its list. -/
def visitBound (code : Array Instr) : Nat :=
  code.foldl (fun n i => match i with
    | .fork next => n + next.length
    | _ => n + 1) 1

/-- Where an instruction leads by reading a character. -/
def successor? (c : Char) : Instr → Option Nat
  | .read set next => if set.contains c.toNat then some next else none
  | _ => none

/-- The instructions reached by reading a character. -/
def readAll (code : Array Instr) (c : Char) (reading : List Nat) : List Nat :=
  reading.filterMap fun i => code[i]?.bind (successor? c)

/-- Searches on from a position. -/
def searchFrom (p : Program) (bound : Nat) (visited : Array Nat) (before : Option Char)
    (arrived : List Nat) (stamp : Nat) : List Char → Bool
  | [] =>
    (visit p.code before none stamp (bound + arrived.length + 1) (arrived ++ [p.start])
      ⟨visited, [], false⟩).accepts
  | c :: rest =>
    let front := visit p.code before (some c) stamp (bound + arrived.length + 1)
      (arrived ++ [p.start]) ⟨visited, [], false⟩
    if front.accepts then true
    else searchFrom p bound front.visited (some c) (readAll p.code c front.reading) (stamp + 1) rest

/-- Whether the program accepts some part of a text. -/
def matchesSome (p : Program) (text : List Char) : Bool :=
  searchFrom p (visitBound p.code) (Array.replicate p.code.size 0) none [] 1 text

end Program

end GuestWatch.Pattern
