import GuestWatch.Json.Tree

/-! # Reading JSON

The reader goes once through the text. Nesting is limited, which also bounds its recursion; the
items of a list and the members of an object are bounded by the length of the text, since each
takes at least one character.
-/
namespace GuestWatch.Json.Reader

/-- Something read and where the text goes on, or a fault. -/
abbrev Step (α : Type) := Except Fault (α × Cursor)

def failAt {α : Type} (cause : Cause) (place : Place) : Step α := .error ⟨cause, place⟩

/-! ## Words and numbers -/

/-- Expects the letters of a word, one after another. -/
def word : List Char → Cursor → Step Unit
  | [], c => .ok ((), c)
  | w :: ws, c =>
    match c.rest with
    | [] => failAt .eofInValue c.place
    | next :: _ =>
      if next = w then word ws c.advance else failAt .expectedIdent (c.place.within next)

def digit? (c : Char) : Option Nat := Text.Decimal.digitValue? c

/-- The largest significand; further digits do not fit. -/
def maxSignificand : Nat := Text.Decimal.max64

/-- The largest exponent that is kept. -/
def maxExponent : Nat := Nat.pow 2 31 - 1

/-- Past a run of digits, counting them. -/
def skipDigits (place : Place) (count : Nat) : List Char → Nat × Cursor
  | [] => (count, ⟨place, []⟩)
  | c :: rest =>
    if (digit? c).isSome then skipDigits (place.after c) (count + 1) rest
    else (count, ⟨place, c :: rest⟩)

/-- Takes digits into a significand as long as it fits. Answers the significand, how many digits
were taken, and whether one was left because it did not fit. -/
def takeDigits (place : Place) (significand count : Nat) : List Char → Nat × Nat × Bool × Cursor
  | [] => (significand, count, false, ⟨place, []⟩)
  | c :: rest =>
    match digit? c with
    | none => (significand, count, false, ⟨place, c :: rest⟩)
    | some d =>
      let next := significand * 10 + d
      if next ≤ maxSignificand then takeDigits (place.after c) next (count + 1) rest
      else (significand, count, true, ⟨place, c :: rest⟩)

/-- Takes exponent digits as long as they fit; the flag says that one did not. -/
def takeExponent (place : Place) (exponent : Nat) : List Char → Nat × Bool × Cursor
  | [] => (exponent, false, ⟨place, []⟩)
  | c :: rest =>
    match digit? c with
    | none => (exponent, false, ⟨place, c :: rest⟩)
    | some d =>
      let next := exponent * 10 + d
      if next ≤ maxExponent then takeExponent (place.after c) next rest
      else (exponent, true, ⟨place.after c, rest⟩)

/-- The number of double precision that a significand and an exponent of ten stand for. -/
def real (negative : Bool) (significand : Nat) (exponent : Int) (c : Cursor) : Step Number :=
  match Decimal.Binary64.ofDecimal? significand exponent with
  | some (m, e) => .ok (.real ⟨negative, m, e⟩, c)
  | none => failAt .numberOutOfRange c.place

/-- What follows the letter of an exponent. -/
def exponentPart (negative : Bool) (significand : Nat) (starting : Int) (c : Cursor) :
    Step Number :=
  let c := c.advance
  let (down, c) := match c.rest with
    | '+' :: _ => (false, c.advance)
    | '-' :: _ => (true, c.advance)
    | _ => (false, c)
  match c.rest with
  | [] => failAt .eofInValue c.place
  | first :: _ =>
    match digit? first with
    | none => failAt .invalidNumber (c.place.within first)
    | some d =>
      let c := c.advance
      let (exponent, beyond, c) := takeExponent c.place d c.rest
      if beyond then
        if significand ≠ 0 ∧ ¬ down then failAt .numberOutOfRange c.place
        else .ok (.real (.zero negative), (skipDigits c.place 0 c.rest).2)
      else
        real negative significand (if down then starting - exponent else starting + exponent) c

/-- An exponent where there is one, else the number as it stands. -/
def withExponent (negative : Bool) (significand : Nat) (exponent : Int) (c : Cursor) :
    Step Number :=
  match c.rest with
  | 'e' :: _ | 'E' :: _ => exponentPart negative significand exponent c
  | _ => real negative significand exponent c

/-- What follows the whole part at a point; `exponent` counts digits that did not fit. -/
def fractionPart (negative : Bool) (significand : Nat) (exponent : Int) (c : Cursor) :
    Step Number :=
  let c := c.advance
  let (significand, count, beyond, after) := takeDigits c.place significand 0 c.rest
  if beyond then
    withExponent negative significand (exponent - count) (skipDigits after.place 0 after.rest).2
  else if count = 0 then
    if after.rest.isEmpty then failAt .eofInValue after.place
    else failAt .invalidNumber after.peeked
  else withExponent negative significand (exponent - count) after

/-- A number whose whole part is read. A negative zero, and what does not fit the signed numbers,
is of double precision. -/
def afterWhole (negative : Bool) (significand : Nat) (c : Cursor) : Step Number :=
  match c.rest with
  | '.' :: _ => fractionPart negative significand 0 c
  | 'e' :: _ | 'E' :: _ => exponentPart negative significand 0 c
  | _ =>
    if ¬ negative then .ok (.natural significand, c)
    else if significand = 0 ∨ Nat.pow 2 63 < significand then real true significand 0 c
    else .ok (.negative (-significand), c)

/-- A number, after its sign. -/
def unsigned (negative : Bool) (c : Cursor) : Step Number :=
  match c.rest with
  | [] => failAt .eofInValue c.place
  | '0' :: next :: _ =>
    if (digit? next).isSome then failAt .invalidNumber c.advance.peeked
    else afterWhole negative 0 c.advance
  | '0' :: [] => afterWhole negative 0 c.advance
  | first :: _ =>
    match digit? first with
    | none => failAt .invalidNumber (c.place.within first)
    | some _ =>
      let (significand, _, beyond, after) := takeDigits c.place 0 0 c.rest
      if ¬ beyond then afterWhole negative significand after
      else
        let (count, after) := skipDigits after.place 0 after.rest
        match after.rest with
        | '.' :: _ => fractionPart negative significand count after
        | _ => withExponent negative significand count after

def number (c : Cursor) : Step Number :=
  match c.rest with
  | '-' :: _ => unsigned true c.advance
  | _ => unsigned false c

/-! ## Strings -/

/-- The place `octets` further on, where the text is that long. A line feed among them starts a
line. -/
def further : Nat → Place → List Char → Option Place
  | 0, p, _ => some p
  | _ + 1, _, [] => none
  | n + 1, p, c :: rest =>
    if n + 1 < c.utf8Size then some ⟨p.line, p.column + (n + 1)⟩
    else further (n + 1 - c.utf8Size) (p.after c) rest

/-- The place at the end of a text. -/
def endPlace (p : Place) (rest : List Char) : Place := rest.foldl Place.after p

/-- The value of four hexadecimal digits. -/
def fourDigits? : List Char → Option (Nat × List Char)
  | a :: b :: c :: d :: rest =>
    match Unicode.CharSet.hexDigit a, Unicode.CharSet.hexDigit b,
      Unicode.CharSet.hexDigit c, Unicode.CharSet.hexDigit d with
    | some a, some b, some c, some d => some (((a * 16 + b) * 16 + c) * 16 + d, rest)
    | _, _, _, _ => none
  | _ => none

/-- Four hexadecimal digits of an escape. -/
def hexEscape (c : Cursor) : Step Nat :=
  match further 4 c.place c.rest with
  | none => failAt .eofInString (endPlace c.place c.rest)
  | some after =>
    match fourDigits? c.rest with
    | some (n, rest) => .ok (n, ⟨after, rest⟩)
    | none => failAt .invalidEscape after

/-- Expects one character between the halves of an escaped pair. -/
def betweenHalves (wanted : Char) (c : Cursor) : Step Unit :=
  match c.rest with
  | [] => failAt .eofInString c.place
  | next :: _ =>
    if next = wanted then .ok ((), c.advance)
    else failAt .unexpectedEndOfHexEscape (c.place.within next)

def isHighHalf (n : Nat) : Bool := 0xD800 ≤ n && n ≤ 0xDBFF

def isLowHalf (n : Nat) : Bool := 0xDC00 ≤ n && n ≤ 0xDFFF

/-- The character of an escape in hexadecimal; characters beyond four digits come as two halves. -/
def hexCharacter (c : Cursor) : Step Char :=
  match hexEscape c with
  | .error f => .error f
  | .ok (n, c) =>
    if isLowHalf n then failAt .loneSurrogate c.place
    else if ¬ isHighHalf n then .ok (Char.ofNat n, c)
    else match betweenHalves '\\' c with
      | .error f => .error f
      | .ok (_, c) =>
        match betweenHalves 'u' c with
        | .error f => .error f
        | .ok (_, c) =>
          match hexEscape c with
          | .error f => .error f
          | .ok (low, c) =>
            if isLowHalf low then
              .ok (Char.ofNat ((n - 0xD800) * 0x400 + (low - 0xDC00) + 0x10000), c)
            else failAt .loneSurrogate c.place

/-- The character that a letter after a backslash stands for. -/
def letterMeaning? (c : Char) : Option Char :=
  match c with
  | '"' => some '"'
  | '\\' => some '\\'
  | '/' => some '/'
  | 'b' => some '\x08'
  | 'f' => some '\x0c'
  | 'n' => some '\n'
  | 'r' => some '\r'
  | 't' => some '\t'
  | _ => none

/-- An escape, after its backslash. -/
def escape (c : Cursor) : Step Char :=
  match c.rest with
  | [] => failAt .eofInString c.place
  | 'u' :: _ => hexCharacter c.advance
  | next :: _ =>
    match letterMeaning? next with
    | some meaning => .ok (meaning, c.advance)
    | none => failAt .invalidEscape (c.place.within next)

/-- The characters up to the closing quotation mark, the last read first. -/
def stringChars (read : List Char) : Nat → Cursor → Step (List Char)
  | 0, c => failAt .eofInString c.place
  | fuel + 1, c =>
    match c.rest with
    | [] => failAt .eofInString c.place
    | '"' :: _ => .ok (read, c.advance)
    | '\\' :: _ =>
      match escape c.advance with
      | .error f => .error f
      | .ok (x, c) => stringChars (x :: read) fuel c
    | x :: _ =>
      if x.toNat < 0x20 then failAt .controlCharacter (c.place.within x)
      else stringChars (x :: read) fuel c.advance

/-- A string, after its opening quotation mark; the text is shorter than `size`. -/
def string (size : Nat) (c : Cursor) : Step String :=
  match stringChars [] size c with
  | .error f => .error f
  | .ok (cs, c) => .ok (String.ofList cs.reverse, c)

/-! ## Values -/

/-- What follows in a list, when values are read by `value`. -/
def items (value : Cursor → Tree × Option Fault × Cursor) (first : Bool) :
    Nat → Cursor → Items × Option Fault × Cursor
  | 0, c => let f := ⟨.eofInList, c.place⟩; (.fault f, some f, c)
  | fuel + 1, c =>
    let c := c.skipSpaces
    match c.rest with
    | [] => let f := ⟨.eofInList, c.place⟩; (.fault f, some f, c)
    | ']' :: _ => (.close, none, c.advance)
    | next :: _ =>
      if first then item fuel c
      else if next = ',' then
        let c := c.advance.skipSpaces
        match c.rest with
        | [] => let f := ⟨.eofInValue, c.place⟩; (.fault f, some f, c)
        | ']' :: _ => let f := ⟨.trailingComma, c.peeked⟩; (.fault f, some f, c)
        | _ => item fuel c
      else let f := ⟨.expectedListCommaOrEnd, c.peeked⟩; (.fault f, some f, c)
where
  /-- One item and what follows it. -/
  item (fuel : Nat) (c : Cursor) : Items × Option Fault × Cursor :=
    let (t, fault, after) := value c
    match fault with
    | some f => (.item c.peeked t (.fault f), some f, after)
    | none =>
      let (rest, fault, after) := items value false fuel after
      (.item c.peeked t rest, fault, after)

/-- The place at which a key is refused: past the spaces after it, and past a closing brace. -/
def refusalPlace (c : Cursor) : Place :=
  let c := c.skipSpaces
  match c.rest with
  | '\x7d' :: _ => c.advance.place
  | _ => c.place

/-- What follows in an object, when values are read by `value`. -/
def members (size : Nat) (value : Cursor → Tree × Option Fault × Cursor) (first : Bool) :
    Nat → Cursor → Members × Option Fault × Cursor
  | 0, c => let f := ⟨.eofInObject, c.place⟩; (.fault f, some f, c)
  | fuel + 1, c =>
    let c := c.skipSpaces
    match c.rest with
    | [] => let f := ⟨.eofInObject, c.place⟩; (.fault f, some f, c)
    | '\x7d' :: _ => (.close, none, c.advance)
    | next :: _ =>
      if first then key fuel c
      else if next = ',' then
        let c := c.advance.skipSpaces
        match c.rest with
        | [] => let f := ⟨.eofInValue, c.place⟩; (.fault f, some f, c)
        | '\x7d' :: _ => let f := ⟨.trailingComma, c.peeked⟩; (.fault f, some f, c)
        | _ => key fuel c
      else let f := ⟨.expectedObjectCommaOrEnd, c.peeked⟩; (.fault f, some f, c)
where
  /-- One member and what follows it. -/
  key (fuel : Nat) (c : Cursor) : Members × Option Fault × Cursor :=
    match c.rest with
    | '"' :: _ =>
      match string size c.advance with
      | .error f => (.fault f, some f, c)
      | .ok (k, c) =>
        let refusal := refusalPlace c
        let c := c.skipSpaces
        match c.rest with
        | ':' :: _ =>
          let (t, fault, after) := value c.advance
          match fault with
          | some f => (.member k refusal t (.fault f), some f, after)
          | none =>
            let (rest, fault, after) := members size value false fuel after
            (.member k refusal t rest, fault, after)
        | [] =>
          let f := ⟨.eofInObject, c.place⟩; (.member k refusal (.fault f) (.fault f), some f, c)
        | _ =>
          let f := ⟨.expectedColon, c.peeked⟩; (.member k refusal (.fault f) (.fault f), some f, c)
    | _ => let f := ⟨.keyMustBeString, c.peeked⟩; (.fault f, some f, c)

/-- A scalar with the fault that it may be. -/
def leaf {α : Type} (build : α → Place → Tree) (step : Step α) : Tree × Option Fault × Cursor :=
  match step with
  | .ok (a, c) => (build a c.place, none, c)
  | .error f => (.fault f, some f, ⟨f.place, []⟩)

/-- How deep lists and objects may be nested. -/
def maxDepth : Nat := 127

/-- A value, at most `depth` lists and objects deep, in a text shorter than `size`: its tree, the
fault that ended the reading if one did, and where the text goes on. -/
def value (size : Nat) : Nat → Cursor → Tree × Option Fault × Cursor
  | depth, c =>
    let c := c.skipSpaces
    match c.rest with
    | [] => let f := ⟨.eofInValue, c.place⟩; (.fault f, some f, c)
    | '"' :: _ => leaf .text (string size c.advance)
    | 'n' :: _ => leaf (fun _ => .null) (word ['u', 'l', 'l'] c.advance)
    | 't' :: _ => leaf (fun _ => .bool true) (word ['r', 'u', 'e'] c.advance)
    | 'f' :: _ => leaf (fun _ => .bool false) (word ['a', 'l', 's', 'e'] c.advance)
    | '[' :: _ =>
      match depth with
      | 0 => let f := ⟨.recursionLimit, c.peeked⟩; (.list c.place (.fault f), some f, c)
      | depth + 1 =>
        let (inside, fault, after) := items (value size depth) true size c.advance
        (.list c.place inside, fault, after)
    | '\x7b' :: _ =>
      match depth with
      | 0 => let f := ⟨.recursionLimit, c.peeked⟩; (.object c.place (.fault f), some f, c)
      | depth + 1 =>
        let (inside, fault, after) := members size (value size depth) true size c.advance
        (.object c.place inside, fault, after)
    | next :: _ =>
      if next = '-' ∨ (digit? next).isSome then leaf .number (number c)
      else let f := ⟨.expectedValue, c.peeked⟩; (.fault f, some f, c)

end Reader

/-- Reads a text as one value. -/
def Document.ofText (text : String) : Document :=
  let start := Cursor.ofText text
  let (tree, fault, after) := Reader.value (start.rest.length + 1) Reader.maxDepth start
  match fault with
  | some _ => ⟨tree, none⟩
  | none =>
    let after := after.skipSpaces
    if after.rest.isEmpty then ⟨tree, none⟩
    else ⟨tree, some ⟨.trailingCharacters, after.peeked⟩⟩

/-- The value of a text that holds one and nothing else. -/
def Value.ofText (text : String) : Except Fault Value := (Document.ofText text).value

end GuestWatch.Json
