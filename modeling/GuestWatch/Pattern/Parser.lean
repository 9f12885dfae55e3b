import GuestWatch.Pattern.Parser.Class
import GuestWatch.Pattern.Parser.Group
import GuestWatch.Pattern.Parser.Repetition

/-! # Reading patterns

The parser goes once through the pattern with a stack of the groups and alternations still open.
Nesting is checked afterwards, from the outside in.
-/
namespace GuestWatch.Pattern.Parser

/-- What surrounds the expressions being read. -/
inductive Frame
  | group (before : Sequence) (span : Span) (kind : GroupKind) (ignoresBlanks : Bool)
  | alternation (start : Position) (branches : List Expr)

/-- Ends one branch of an alternation, at the bar. -/
def endBranch (s : Sequence) (stack : List Frame) (bar : Position) : List Frame :=
  match stack with
  | .alternation start branches :: below => .alternation start (s.toExpr bar :: branches) :: below
  | _ => .alternation s.start [s.toExpr bar] :: stack

/-- The branches before a position, if any, joined with the last one. -/
def joinBranches (s : Sequence) (stack : List Frame) (stop : Position) : Expr × List Frame :=
  match stack with
  | .alternation start branches :: below =>
    (.alternation ⟨start, stop⟩ (branches.reverse ++ [s.toExpr stop]), below)
  | _ => (s.toExpr stop, stack)

/-- The end of the pattern, at which every group must be closed. -/
def finish (s : Sequence) (stack : List Frame) : Parser Expr := do
  match joinBranches s stack (← pos) with
  | (e, []) => return e
  | (_, .group _ span _ _ :: _) => fail .groupUnclosed span
  | (e, .alternation _ _ :: _) => return e

/-- A closing parenthesis. -/
def closeGroup (s : Sequence) (stack : List Frame) : Parser (Sequence × List Frame) := do
  let (body, below) := joinBranches s stack (← pos)
  match below with
  | .group before span kind ignoresBlanks :: outer =>
    modify fun scan => { scan with ignoresBlanks }
    let _ ← bump
    return (before.push (.group ⟨span.start, ← pos⟩ kind body), outer)
  | _ => fail .groupUnopened (← charSpan)

/-- An opening parenthesis. -/
def openGroup (s : Sequence) (stack : List Frame) (names : Names) :
    Parser (Sequence × List Frame × Names) := do
  let was := (← get).ignoresBlanks
  match ← opening names with
  | (.flags span items, names) =>
    match Flags.state? .ignoreWhitespace true items with
    | some ignoresBlanks => modify fun scan => { scan with ignoresBlanks }
    | none => pure ()
    return (s.push (.flags span items), stack, names)
  | (.group span kind, names) =>
    let flags := match kind with
      | .plain items => items
      | .capture => []
    let ignoresBlanks := (Flags.state? .ignoreWhitespace true flags).getD was
    modify fun scan => { scan with ignoresBlanks }
    return (⟨← pos, []⟩, .group s span kind was :: stack, names)

/-- Reads on to the end of the pattern. -/
def loop (s : Sequence) (stack : List Frame) (names : Names) : Nat → Parser Expr
  | 0 => finish s stack
  | left + 1 => do
    modify Scan.skipBlanks
    match ← next? with
    | none => finish s stack
    | some '(' =>
      let (s, stack, names) ← openGroup s stack names
      loop s stack names left
    | some ')' =>
      let (s, stack) ← closeGroup s stack
      loop s stack names left
    | some '|' =>
      let stack := endBranch s stack (← pos)
      let _ ← bump
      loop ⟨← pos, []⟩ stack names left
    | some '[' => loop (s.push (← bracketed)) stack names left
    | some '?' => loop (← simpleRepetition s 0 (some 1)) stack names left
    | some '*' => loop (← simpleRepetition s 0 none) stack names left
    | some '+' => loop (← simpleRepetition s 1 none) stack names left
    | some '\x7b' => loop (← countedRepetition s) stack names left
    | some c => loop (s.push (.primitive (← primitive c))) stack names left

def pattern : Parser Expr := do loop ⟨← pos, []⟩ [] [] (← fuel)

/-! ## Nesting -/

/-- Goes one level deeper, where that is allowed. -/
def deeper (depth : Nat) (span : Span) : Except Fault Nat :=
  if depth < nestLimit then .ok (depth + 1) else .error ⟨.nestLimitExceeded, span, none⟩

mutual

def checkItem (depth : Nat) : ClassItem → Except Fault Unit
  | .bracketed span _ set => do checkSet (← deeper depth span) set
  | .union span items => do checkItems (← deeper depth span) items
  | _ => .ok ()

def checkItems (depth : Nat) : List ClassItem → Except Fault Unit
  | [] => .ok ()
  | i :: rest => do checkItem depth i; checkItems depth rest

def checkSet (depth : Nat) : ClassSet → Except Fault Unit
  | .item i => checkItem depth i
  | .op span _ left right => do
    let depth ← deeper depth span
    checkSet depth left
    checkSet depth right

end

mutual

def check (depth : Nat) : Expr → Except Fault Unit
  | .bracketed span _ set => do checkSet (← deeper depth span) set
  | .repetition span _ _ _ body => do check (← deeper depth span) body
  | .group span _ body => do check (← deeper depth span) body
  | .alternation span branches => do checkAll (← deeper depth span) branches
  | .concat span parts => do checkAll (← deeper depth span) parts
  | _ => .ok ()

def checkAll (depth : Nat) : List Expr → Except Fault Unit
  | [] => .ok ()
  | e :: rest => do check depth e; checkAll depth rest

end

end Parser

/-- Reads a pattern. -/
def Expr.ofText (text : String) : Except Fault Expr := do
  let (e, _) ← Parser.pattern (.ofText text)
  Parser.check 0 e
  return e

end GuestWatch.Pattern
