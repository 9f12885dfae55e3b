import GuestWatch.Pattern.Parser.Escape

/-! # Bracketed classes

Classes nest, so the brackets still open are kept on a stack, together with the left sides of
operators that wait for their right side.
-/
namespace GuestWatch.Pattern.Parser

/-- A union that is being read, last item first. -/
structure ClassUnion where
  span : Span
  items : List ClassItem

namespace ClassUnion

def push (u : ClassUnion) (i : ClassItem) : ClassUnion :=
  let start := if u.items.isEmpty then i.span.start else u.span.start
  ⟨⟨start, i.span.stop⟩, i :: u.items⟩

def toItem (u : ClassUnion) : ClassItem :=
  match u.items with
  | [] => .empty u.span
  | [i] => i
  | items => .union u.span items.reverse

end ClassUnion

inductive ClassFrame
  | opened (parent : ClassUnion) (span : Span) (negated : Bool)
  | op (kind : ClassOp) (left : ClassSet)

/-- Names of classes of ASCII characters. -/
def asciiKind? (name : List Char) : Option AsciiKind :=
  match String.ofList name with
  | "alnum" => some .alnum
  | "alpha" => some .alpha
  | "ascii" => some .ascii
  | "blank" => some .blank
  | "cntrl" => some .cntrl
  | "digit" => some .digit
  | "graph" => some .graph
  | "lower" => some .lower
  | "print" => some .print
  | "punct" => some .punct
  | "space" => some .space
  | "upper" => some .upper
  | "word" => some .word
  | "xdigit" => some .xdigit
  | _ => none

/-- A named class of ASCII characters at the start of a text: its kind, whether it is negated, and
how many characters it takes. -/
def asciiClass? : List Char → Option (AsciiKind × Bool × Nat)
  | '[' :: ':' :: rest =>
    let (negated, body) := match rest with
      | '^' :: more => (true, more)
      | _ => (false, rest)
    let name := body.takeWhile (· ≠ ':')
    if (body.drop name.length).take 2 = [':', ']'] then
      (asciiKind? name).map fun kind =>
        (kind, negated, name.length + (if negated then 5 else 4))
    else none
  | _ => none

/-- Moves past some characters. -/
def bumps (count : Nat) : Parser Unit := modify fun s => count.repeat Scan.bump s

/-- Joins a right side with the operator that waits for it. -/
def joinOp (stack : List ClassFrame) (right : ClassSet) : ClassSet × List ClassFrame :=
  match stack with
  | .op kind left :: below => (.op ⟨left.span.start, right.span.stop⟩ kind left right, below)
  | _ => (right, stack)

/-- The innermost bracket that is open. -/
def openSpan? : List ClassFrame → Option Span
  | [] => none
  | .opened _ span _ :: _ => some span
  | .op _ _ :: below => openSpan? below

def unclosed {α : Type} (stack : List ClassFrame) : Parser α := do
  match openSpan? stack with
  | some span => fail .classUnclosed span
  | none => fail .classUnclosed (← here)

/-- Hyphens at the start of a class, which stand for themselves. -/
def leadingHyphens (start : Position) (u : ClassUnion) : Nat → Parser ClassUnion
  | 0 => return u
  | left + 1 => do
    if (← next?) ≠ some '-' then return u
    let u := u.push (.literal ⟨← charSpan, '-', false⟩)
    if ¬ (← bumpBlanks) then fail .classUnclosed (.here start)
    leadingHyphens start u left

/-- An opening bracket, with what may directly follow it. -/
def openClass : Parser (Span × Bool × ClassUnion) := do
  let start ← pos
  if ¬ (← bumpBlanks) then fail .classUnclosed ⟨start, ← pos⟩
  let negated := (← next?) = some '^'
  if negated then
    if ¬ (← bumpBlanks) then fail .classUnclosed ⟨start, ← pos⟩
  let mut u ← leadingHyphens start ⟨← here, []⟩ (← fuel)
  if u.items.isEmpty ∧ (← next?) = some ']' then
    u := u.push (.literal ⟨← charSpan, ']', false⟩)
    if ¬ (← bumpBlanks) then fail .classUnclosed ⟨start, ← pos⟩
  return (⟨start, ← pos⟩, negated, u)

/-- One end of a range, or an item that is none. -/
def classPrimitive (c : Char) : Parser Primitive := do
  if c = '\\' then escape else return .literal (← verbatim c)

def asItem : Primitive → Parser ClassItem
  | .literal l => return .literal l
  | .letter c => return .letter c
  | .property c => return .property c
  | p => fail .classEscapeInvalid p.span

def asRangeEnd : Primitive → Parser Literal
  | .literal l => return l
  | p => fail .classRangeLiteral p.span

/-- An item of a class, or a range. A hyphen before the closing bracket, or before another hyphen,
makes no range. -/
def classRange (stack : List ClassFrame) (c : Char) : Parser ClassItem := do
  let first ← classPrimitive c
  modify Scan.skipBlanks
  match ← next? with
  | none => unclosed stack
  | some '-' =>
    let ahead := (← get).ahead?
    if ahead = some ']' ∨ ahead = some '-' then asItem first
    else
      if ¬ (← bumpBlanks) then unclosed stack
      match ← next? with
      | none => unclosed stack
      | some c =>
        let second ← classPrimitive c
        let span : Span := ⟨first.span.start, second.span.stop⟩
        let low ← asRangeEnd first
        let high ← asRangeEnd second
        if high.char < low.char then fail .classRangeInvalid span
        return .range span low high
  | some _ => asItem first

/-- Puts an operator between what is read and what follows. -/
def pushOp (kind : ClassOp) (u : ClassUnion) (stack : List ClassFrame) :
    Parser (ClassUnion × List ClassFrame) := do
  let (left, below) := joinOp stack (.item u.toItem)
  return (⟨← here, []⟩, .op kind left :: below)

/-- Reads on, with a union begun and a stack of open brackets, to the bracket that closes the
class. -/
def classLoop (u : ClassUnion) (stack : List ClassFrame) : Nat → Parser Expr
  | 0 => unclosed stack
  | left + 1 => do
    modify Scan.skipBlanks
    let rest := (← get).rest
    match rest with
    | [] => unclosed stack
    | '[' :: _ =>
      match asciiClass? rest with
      | some (kind, negated, count) =>
        let start ← pos
        bumps count
        classLoop (u.push (.ascii ⟨start, ← pos⟩ kind negated)) stack left
      | none =>
        let (span, negated, inner) ← openClass
        classLoop inner (.opened u span negated :: stack) left
    | ']' :: _ =>
      let (set, below) := joinOp stack (.item u.toItem)
      match below with
      | .opened parent span negated :: outer =>
        let _ ← bump
        let span : Span := ⟨span.start, ← pos⟩
        if outer.isEmpty then return .bracketed span negated set
        classLoop (parent.push (.bracketed span negated set)) outer left
      | _ => unclosed stack
    | '&' :: '&' :: _ =>
      bumps 2
      let (u, stack) ← pushOp .intersection u stack
      classLoop u stack left
    | '-' :: '-' :: _ =>
      bumps 2
      let (u, stack) ← pushOp .difference u stack
      classLoop u stack left
    | '~' :: '~' :: _ =>
      bumps 2
      let (u, stack) ← pushOp .symmetricDifference u stack
      classLoop u stack left
    | c :: _ =>
      let i ← classRange stack c
      classLoop (u.push i) stack left

/-- A class, from its opening bracket on. -/
def bracketed : Parser Expr := do
  let outer : ClassUnion := ⟨← here, []⟩
  let (span, negated, u) ← openClass
  classLoop u [.opened outer span negated] (← fuel)

end GuestWatch.Pattern.Parser
