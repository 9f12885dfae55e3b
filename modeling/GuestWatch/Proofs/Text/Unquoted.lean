import Mathlib.Logic.Function.Basic
import GuestWatch.Text.Quoted

/-! # Reading quoted text

Quoted text can be read back. A reader goes by backslashes and quotes alone and need not know which
characters show as themselves, so it reads what was quoted under any table of them.
-/
namespace GuestWatch.Text.Quoted

open Unicode.CharSet (hexDigit)

/-- What a reader of quoted text is in the middle of. -/
inductive Part
  | text
  | escape
  | brace
  | code (value : Nat)

/-- The character that a letter after a backslash stands for. -/
def meant? (l : Char) : Option Char :=
  match l with
  | '0' => some '\x00'
  | 't' => some '\t'
  | 'n' => some '\n'
  | 'r' => some '\r'
  | '"' => some '"'
  | '\\' => some '\\'
  | _ => none

/-- What is said from some part on, up to the quote at the end. -/
def read : Part → List Char → Option (List Char)
  | _, [] => none
  | .text, c :: rest =>
    if c = '"' then if rest = [] then some [] else none
    else if c = '\\' then read .escape rest
    else (read .text rest).map (c :: ·)
  | .escape, l :: rest =>
    if l = 'u' then read .brace rest
    else match meant? l with
      | some c => (read .text rest).map (c :: ·)
      | none => none
  | .brace, c :: rest => if c = '\x7b' then read (.code 0) rest else none
  | .code value, c :: rest =>
    if c = '\x7d' then (read .text rest).map (Char.ofNat value :: ·)
    else match hexDigit c with
      | some d => read (.code (value * 16 + d)) rest
      | none => none

/-- The characters that stand in quotes. -/
def decode? : List Char → Option (List Char)
  | [] => none
  | c :: rest => if c = '"' then read .text rest else none

/-- The text that a quoted text says. -/
def unquote? (quoted : String) : Option String := (decode? quoted.toList).map String.ofList

variable {c l : Char} {value d : Nat} {visible : Char → Bool}

/-! ## Escapes -/

theorem meant?_of_letter? (h : letter? c = some l) : meant? l = some c := by
  unfold letter? at h
  split at h <;> cases h <;> rfl

theorem letter?_ne_u (h : letter? c = some l) : l ≠ 'u' := by
  rintro rfl
  cases meant?_of_letter? h

theorem ne_of_letter?_eq_none (h : letter? c = none) : c ≠ '"' ∧ c ≠ '\\' := by
  constructor
  · rintro rfl
    cases h
  · rintro rfl
    cases h

theorem hexDigit_hexChar : ∀ d < 16, hexDigit (hexDigits.hexChar d) = some d := by decide

theorem hexChar_ne_brace : ∀ d < 16, hexDigits.hexChar d ≠ '\x7d' := by decide

theorem read_hexChar (h : d < 16) (value : Nat) (rest : List Char) :
    read (.code value) (hexDigits.hexChar d :: rest) = read (.code (value * 16 + d)) rest := by
  rw [read, if_neg (hexChar_ne_brace d h), hexDigit_hexChar d h]

/-- The digits of a number are read from the left, and what has been read of them is the number
without its last digits. -/
theorem read_hexDigits (n : Nat) (rest : List Char) :
    read (.code 0) (hexDigits n ++ rest) = read (.code n) rest := by
  induction n using hexDigits.induct generalizing rest with
  | case1 n small =>
    rw [hexDigits, if_pos small, List.singleton_append, read_hexChar small, Nat.zero_mul,
      Nat.zero_add]
  | case2 n large ih =>
    have last : n % 16 < 16 := Nat.mod_lt n (by decide)
    rw [hexDigits, if_neg large, List.append_assoc, ih, List.singleton_append, read_hexChar last,
      Nat.div_add_mod']

theorem read_letter (h : letter? c = some l) (rest : List Char) :
    read .text ('\\' :: l :: rest) = (read .text rest).map (c :: ·) := by
  simp [read, letter?_ne_u h, meant?_of_letter? h]

theorem read_shown (h : letter? c = none) (rest : List Char) :
    read .text (c :: rest) = (read .text rest).map (c :: ·) := by
  obtain ⟨quote, backslash⟩ := ne_of_letter?_eq_none h
  rw [read, if_neg quote, if_neg backslash]

theorem read_code (c : Char) (rest : List Char) :
    read .text ('\\' :: 'u' :: '\x7b' :: (hexDigits c.toNat ++ '\x7d' :: rest)) =
      (read .text rest).map (c :: ·) := by
  have brace : read (.code c.toNat) ('\x7d' :: rest) = (read .text rest).map (c :: ·) := by
    rw [read, if_pos rfl, Char.ofNat_toNat]
  rw [← brace, ← read_hexDigits]
  simp [read]

/-! ## Quoted text -/

/-- However a character is written, it is read as itself. -/
theorem read_escape (visible : Char → Bool) (c : Char) (rest : List Char) :
    read .text (escape visible c ++ rest) = (read .text rest).map (c :: ·) := by
  unfold escape
  cases h : letter? c with
  | some l => exact read_letter h rest
  | none =>
    by_cases shown : visible c = true
    · simpa [shown] using read_shown h rest
    · simpa [shown] using read_code c rest

theorem read_flatMap_escape (visible : Char → Bool) (cs rest : List Char) :
    read .text (cs.flatMap (escape visible) ++ rest) = (read .text rest).map (cs ++ ·) := by
  induction cs with
  | nil => simp
  | cons c cs ih =>
    rw [List.flatMap_cons, List.append_assoc, read_escape, ih, Option.map_map]
    rfl

theorem decode?_encode (visible : Char → Bool) (cs : List Char) :
    decode? (encode visible cs) = some cs := by
  have stop : read .text ['"'] = some [] := rfl
  rw [encode, decode?, if_pos rfl, read_flatMap_escape, stop, Option.map_some, List.append_nil]

@[simp] theorem unquote?_quote (text : String) : unquote? (quote text) = some text := by
  rw [unquote?, quote, String.toList_ofList, decode?_encode, Option.map_some, String.ofList_toList]

example : unquote? "\"\\\"\\u\x7b301\x7d\"" = some "\"\u0301" := by decide

theorem quote_injective : Function.Injective quote := by
  intro text₁ text₂ h
  have same := congrArg unquote? h
  rw [unquote?_quote, unquote?_quote] at same
  exact Option.some.inj same

end GuestWatch.Text.Quoted
