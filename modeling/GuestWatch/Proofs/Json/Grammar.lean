import GuestWatch.Text.Decimal
import GuestWatch.Unicode.CharSet

/-! # The grammar of JSON

What it is for a text to hold a datum. Each relation is between a text and what is left of it when
something has been taken from its front. Blanks may stand around everything but the characters of a
number, of a word or of a string. Numbers are kept as they are written, since it is part of what
they say whether they have a sign, a fraction or an exponent.
-/
namespace GuestWatch.Json

inductive Datum
  | null
  | bool (b : Bool)
  | number (literal : List Char)
  | text (s : String)
  | list (items : List Datum)
  | object (members : List (String × Datum))

/-- A whole number in plain digits. -/
def Datum.natural (n : Nat) : Datum := .number (Text.Decimal.digits n)

namespace Grammar

def blanks : List Char := [' ', '\n', '\t', '\r']

inductive Blanks : List Char → List Char → Prop
  | done {t : List Char} : Blanks t t
  | blank {c : Char} {t r : List Char} (h : c ∈ blanks) (more : Blanks t r) : Blanks (c :: t) r

/-! ## Numbers -/

def Digits (cs : List Char) : Prop := ∀ c ∈ cs, c.isDigit = true

/-- No zero comes before another digit. -/
inductive Whole : List Char → Prop
  | zero : Whole ['0']
  | positive {c : Char} {cs : List Char} (first : c ≠ '0') (digits : Digits (c :: cs)) :
    Whole (c :: cs)

inductive Fraction : List Char → Prop
  | none : Fraction []
  | digits {cs : List Char} (some : cs ≠ []) (digits : Digits cs) : Fraction ('.' :: cs)

inductive Exponent : List Char → Prop
  | none : Exponent []
  | digits {e : Char} {sign cs : List Char} (letter : e ∈ ['e', 'E'])
    (signed : sign ∈ [[], ['+'], ['-']]) (some : cs ≠ []) (digits : Digits cs) :
    Exponent (e :: (sign ++ cs))

inductive Number : List Char → Prop
  | parts {sign whole fraction exponent : List Char} (signed : sign ∈ [[], ['-']])
    (isWhole : Whole whole) (isFraction : Fraction fraction) (isExponent : Exponent exponent) :
    Number (sign ++ whole ++ fraction ++ exponent)

/-! ## Strings -/

/-- The letters that may follow a backslash, with what they stand for. -/
def letters : List (Char × Char) :=
  [('"', '"'), ('\\', '\\'), ('/', '/'), ('b', '\x08'), ('f', '\x0c'), ('n', '\n'), ('r', '\r'),
    ('t', '\t')]

/-- Four hexadecimal digits and the number that they stand for. -/
inductive FourDigits : List Char → Nat → List Char → Prop
  | digits {a b c d : Char} {w x y z : Nat} {r : List Char}
    (first : Unicode.CharSet.hexDigit a = some w) (second : Unicode.CharSet.hexDigit b = some x)
    (third : Unicode.CharSet.hexDigit c = some y) (fourth : Unicode.CharSet.hexDigit d = some z) :
    FourDigits (a :: b :: c :: d :: r) (((w * 16 + x) * 16 + y) * 16 + z) r

/-- A character as it stands or as an escape. No code point of the surrogates is a character, so
these come only in pairs. -/
inductive Character : List Char → Char → List Char → Prop
  | plain {c : Char} {r : List Char} (visible : 0x20 ≤ c.toNat) (quote : c ≠ '"')
    (backslash : c ≠ '\\') : Character (c :: r) c r
  | letter {l c : Char} {r : List Char} (h : (l, c) ∈ letters) : Character ('\\' :: l :: r) c r
  | code {c : Char} {t r : List Char} (h : FourDigits t c.toNat r) :
    Character ('\\' :: 'u' :: t) c r
  | pair {c : Char} {t s r : List Char} {high low : Nat}
    (first : FourDigits t high ('\\' :: 'u' :: s)) (second : FourDigits s low r)
    (isHigh : 0xD800 ≤ high ∧ high ≤ 0xDBFF) (isLow : 0xDC00 ≤ low ∧ low ≤ 0xDFFF)
    (h : c.toNat = 0x10000 + (high - 0xD800) * 0x400 + (low - 0xDC00)) :
    Character ('\\' :: 'u' :: t) c r

/-- The characters up to a quotation mark. -/
inductive Quoted : List Char → List Char → List Char → Prop
  | close {r : List Char} : Quoted ('"' :: r) [] r
  | character {c : Char} {cs t s r : List Char} (h : Character t c s) (more : Quoted s cs r) :
    Quoted t (c :: cs) r

/-! ## Values -/

mutual

inductive Value : List Char → Datum → List Char → Prop
  | null {r : List Char} : Value ('n' :: 'u' :: 'l' :: 'l' :: r) .null r
  | yes {r : List Char} : Value ('t' :: 'r' :: 'u' :: 'e' :: r) (.bool true) r
  | no {r : List Char} : Value ('f' :: 'a' :: 'l' :: 's' :: 'e' :: r) (.bool false) r
  | number {literal r : List Char} (h : Number literal) :
    Value (literal ++ r) (.number literal) r
  | text {s : String} {t r : List Char} (h : Quoted t s.toList r) : Value ('"' :: t) (.text s) r
  | emptyList {t r : List Char} (h : Blanks t (']' :: r)) : Value ('[' :: t) (.list []) r
  | list {d : Datum} {ds : List Datum} {t t₁ t₂ r : List Char} (before : Blanks t t₁)
    (first : Value t₁ d t₂) (more : MoreItems t₂ ds r) : Value ('[' :: t) (.list (d :: ds)) r
  | emptyObject {t r : List Char} (h : Blanks t ('\x7d' :: r)) :
    Value ('\x7b' :: t) (.object []) r
  | object {k : String} {d : Datum} {ms : List (String × Datum)} {t t₁ t₂ r : List Char}
    (before : Blanks t t₁) (first : Member t₁ k d t₂) (more : MoreMembers t₂ ms r) :
    Value ('\x7b' :: t) (.object ((k, d) :: ms)) r

/-- The items after the first, each after a comma, and the end of the list. -/
inductive MoreItems : List Char → List Datum → List Char → Prop
  | close {t r : List Char} (h : Blanks t (']' :: r)) : MoreItems t [] r
  | item {d : Datum} {ds : List Datum} {t t₁ t₂ t₃ r : List Char} (before : Blanks t (',' :: t₁))
    (after : Blanks t₁ t₂) (value : Value t₂ d t₃) (more : MoreItems t₃ ds r) :
    MoreItems t (d :: ds) r

inductive Member : List Char → String → Datum → List Char → Prop
  | pair {k : String} {d : Datum} {t t₁ t₂ t₃ r : List Char} (key : Quoted t k.toList t₁)
    (before : Blanks t₁ (':' :: t₂)) (after : Blanks t₂ t₃) (value : Value t₃ d r) :
    Member ('"' :: t) k d r

inductive MoreMembers : List Char → List (String × Datum) → List Char → Prop
  | close {t r : List Char} (h : Blanks t ('\x7d' :: r)) : MoreMembers t [] r
  | member {k : String} {d : Datum} {ms : List (String × Datum)} {t t₁ t₂ t₃ r : List Char}
    (before : Blanks t (',' :: t₁)) (after : Blanks t₁ t₂) (member : Member t₂ k d t₃)
    (more : MoreMembers t₃ ms r) : MoreMembers t ((k, d) :: ms) r

end

end Grammar

/-- A text that holds one value and nothing else. -/
inductive IsDocument : List Char → Datum → Prop
  | value {d : Datum} {t t₁ t₂ : List Char} (before : Grammar.Blanks t t₁)
    (value : Grammar.Value t₁ d t₂) (after : Grammar.Blanks t₂ []) : IsDocument t d

/-! ## What values start with and what follows them -/

namespace Grammar

variable {x : Char} {t s r cs : List Char} {d : Datum} {ds : List Datum}
variable {ms : List (String × Datum)} {k : String}

/-- What may come after a value: no value starts so. -/
def separators : List Char := [',', ']', '\x7d'] ++ blanks

def Starts (t : List Char) : Prop := ∃ x s, t = x :: s ∧ x ∉ separators

def Ends (r : List Char) : Prop := ∀ x ∈ r.head?, x ∈ separators

theorem not_isDigit_of_mem_separators (hx : x ∈ separators) : ¬ x.isDigit = true := by
  have none : separators.all (fun x => !x.isDigit) = true := by decide
  simpa using List.all_eq_true.mp none x hx

theorem Ends.not_isDigit (h : Ends r) : ∀ x ∈ r.head?, ¬ x.isDigit = true :=
  fun x hx => not_isDigit_of_mem_separators (h x hx)

theorem Starts.not_blank (h : Starts t) : ∀ x ∈ t.head?, x ∉ blanks := by
  obtain ⟨x, s, rfl, hx⟩ := h
  rintro y ⟨⟩ blank
  exact hx (List.mem_append_right _ blank)

theorem Blanks.ends (h : Blanks t (x :: r)) (hx : x ∈ separators) : Ends t := by
  cases h with
  | done =>
    rintro y ⟨⟩
    exact hx
  | blank hb _ =>
    rintro y ⟨⟩
    exact List.mem_append_right _ hb

theorem Blanks.ends_nil (h : Blanks t []) : Ends t := by
  cases h with
  | done =>
    rintro y ⟨⟩
  | blank hb _ =>
    rintro y ⟨⟩
    exact List.mem_append_right _ hb

theorem MoreItems.ends (h : MoreItems t ds r) : Ends t := by
  cases h with
  | close h => exact h.ends (by decide)
  | item before => exact before.ends (by decide)

theorem MoreMembers.ends (h : MoreMembers t ms r) : Ends t := by
  cases h with
  | close h => exact h.ends (by decide)
  | member before => exact before.ends (by decide)

theorem Number.starts (h : Number cs) (r : List Char) : Starts (cs ++ r) := by
  obtain ⟨signed, whole, -, -⟩ := h
  simp only [List.mem_cons, List.not_mem_nil, or_false] at signed
  rcases signed with rfl | rfl
  · cases whole with
    | zero => exact ⟨'0', _, rfl, by decide⟩
    | @positive x cs _ digits =>
      have digit := digits x List.mem_cons_self
      exact ⟨x, _, rfl, fun hx => not_isDigit_of_mem_separators hx digit⟩
  · exact ⟨'-', _, rfl, by decide⟩

theorem Value.starts (h : Value t d r) : Starts t := by
  cases h with
  | null => exact ⟨'n', _, rfl, by decide⟩
  | yes => exact ⟨'t', _, rfl, by decide⟩
  | no => exact ⟨'f', _, rfl, by decide⟩
  | number h => exact h.starts r
  | text => exact ⟨'"', _, rfl, by decide⟩
  | emptyList => exact ⟨'[', _, rfl, by decide⟩
  | list => exact ⟨'[', _, rfl, by decide⟩
  | emptyObject => exact ⟨'\x7b', _, rfl, by decide⟩
  | object => exact ⟨'\x7b', _, rfl, by decide⟩

theorem Member.starts (h : Member t k d r) : Starts t := by
  cases h
  exact ⟨'"', _, rfl, by decide⟩

/-! ## Lengths

Everything but blanks takes at least one character.
-/

theorem Blanks.trans (h : Blanks t s) (more : Blanks s r) : Blanks t r := by
  induction h with
  | done => exact more
  | blank hx _ ih => exact .blank hx (ih more)

theorem Blanks.length_le (h : Blanks t r) : r.length ≤ t.length := by
  induction h with
  | done => exact Nat.le_refl _
  | blank _ _ ih => exact Nat.le_succ_of_le ih

theorem FourDigits.length_lt {n : Nat} (h : FourDigits t n r) : r.length < t.length := by
  cases h
  simp only [List.length_cons]
  omega

theorem Character.length_lt (h : Character t x r) : r.length < t.length := by
  cases h with
  | plain => simp
  | letter =>
    simp only [List.length_cons]
    omega
  | code h =>
    have := h.length_lt
    simp only [List.length_cons]
    omega
  | pair first second =>
    have := first.length_lt
    have := second.length_lt
    simp only [List.length_cons] at *
    omega

theorem Number.length_pos (h : Number cs) : 0 < cs.length := by
  obtain ⟨-, whole, -, -⟩ := h
  cases whole <;> simp only [List.length_append, List.length_cons] <;> omega

theorem Quoted.length_lt (h : Quoted t cs r) : r.length < t.length := by
  induction h with
  | close => exact Nat.lt_succ_self _
  | character h _ ih => exact Nat.lt_trans ih h.length_lt

mutual

theorem Value.length_lt {t r : List Char} {d : Datum} : Value t d r → r.length < t.length
  | .null | .yes | .no => by
    simp only [List.length_cons]
    omega
  | .number h => by
    have nonempty := h.length_pos
    rw [List.length_append]
    omega
  | .text h => Nat.lt_succ_of_lt h.length_lt
  | .emptyList h | .emptyObject h => by
    have := h.length_le
    simp only [List.length_cons] at *
    omega
  | .list before first more => by
    have := before.length_le
    have := first.length_lt
    have := more.length_lt
    simp only [List.length_cons]
    omega
  | .object before first more => by
    have := before.length_le
    have := first.length_lt
    have := more.length_lt
    simp only [List.length_cons]
    omega

theorem MoreItems.length_lt {t r : List Char} {ds : List Datum} :
    MoreItems t ds r → r.length < t.length
  | .close h => h.length_le
  | .item before after value more => by
    have := before.length_le
    have := after.length_le
    have := value.length_lt
    have := more.length_lt
    simp only [List.length_cons] at *
    omega

theorem Member.length_lt {t r : List Char} {k : String} {d : Datum} :
    Member t k d r → r.length < t.length
  | .pair key before after value => by
    have := key.length_lt
    have := before.length_le
    have := after.length_le
    have := value.length_lt
    simp only [List.length_cons] at *
    omega

theorem MoreMembers.length_lt {t r : List Char} {ms : List (String × Datum)} :
    MoreMembers t ms r → r.length < t.length
  | .close h => h.length_le
  | .member before after member more => by
    have := before.length_le
    have := after.length_le
    have := member.length_lt
    have := more.length_lt
    simp only [List.length_cons] at *
    omega

end

end Grammar

end GuestWatch.Json
