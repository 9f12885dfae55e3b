import GuestWatch.Json.Reader
import GuestWatch.Proofs.Json.Grammar

/-! # Reading strings

The reader of strings takes what the grammar of strings says, and nothing else. Places are for
messages only: what a step gives depends on the text that follows.
-/
namespace GuestWatch.Json

namespace Grammar

variable {x : Char} {d n : Nat} {t r : List Char}

theorem hexDigit_lt (h : Unicode.CharSet.hexDigit x = some d) : x.toNat < 0x80 ∧ d < 16 := by
  have below (y : Char) (h : x ≤ y) : x.toNat ≤ y.toNat := h
  unfold Unicode.CharSet.hexDigit at h
  split at h
  · next range =>
    have := below '9' range.2
    cases h
    simp at *
    omega
  · split at h
    · next range =>
      have := below 'F' range.2
      cases h
      simp at *
      omega
    · split at h
      · next range =>
        have := below 'f' range.2
        cases h
        simp at *
        omega
      · cases h

theorem utf8Size_of_hexDigit (h : Unicode.CharSet.hexDigit x = some d) : x.utf8Size = 1 := by
  have low : x.toNat < 0x80 := (hexDigit_lt h).1
  apply Char.utf8Size_eq_one_iff.mpr
  exact UInt32.le_iff_toNat_le.mpr (Nat.le_of_lt_succ low)

theorem FourDigits.lt (h : FourDigits t n r) : n < 0x10000 := by
  obtain ⟨first, second, third, fourth⟩ := h
  have := (hexDigit_lt first).2
  have := (hexDigit_lt second).2
  have := (hexDigit_lt third).2
  have := (hexDigit_lt fourth).2
  omega

end Grammar

namespace Reader

open Grammar (FourDigits Character Quoted)

/-- A step succeeds with a result and leaves the rest of the text. -/
def Step.Gives {α : Type} (step : Step α) (a : α) (rest : List Char) : Prop :=
  ∃ after, step = .ok (a, after) ∧ after.rest = rest

variable {α : Type} {a b : α} {c : Cursor} {n : Nat} {x : Char} {r t : List Char}

@[simp] theorem gives_ok : Step.Gives (.ok (a, c)) b r ↔ a = b ∧ c.rest = r := by
  constructor
  · rintro ⟨after, h, rfl⟩
    cases h
    exact ⟨rfl, rfl⟩
  · rintro ⟨rfl, rfl⟩
    exact ⟨c, rfl, rfl⟩

@[simp] theorem not_gives_error {f : Fault} : ¬ Step.Gives (.error f) a r := by
  rintro ⟨after, h, -⟩
  cases h

@[simp] theorem not_gives_failAt {cause : Cause} {place : Place} :
    ¬ Step.Gives (failAt cause place) a r := not_gives_error

/-! ## Escapes -/

theorem fourDigits?_eq_some : fourDigits? t = some (n, r) ↔ FourDigits t n r := by
  constructor
  · intro h
    unfold fourDigits? at h
    split at h
    · split at h
      · cases h
        constructor <;> assumption
      · cases h
    · cases h
  · rintro ⟨first, second, third, fourth⟩
    simp [fourDigits?, first, second, third, fourth]

theorem further_of_fourDigits (h : FourDigits t n r) (p : Place) :
    ∃ after, further 4 p t = some after := by
  obtain ⟨first, second, third, fourth⟩ := h
  simp [further, Grammar.utf8Size_of_hexDigit first, Grammar.utf8Size_of_hexDigit second,
    Grammar.utf8Size_of_hexDigit third, Grammar.utf8Size_of_hexDigit fourth]

theorem hexEscape_gives : (hexEscape c).Gives n r ↔ FourDigits c.rest n r := by
  rw [← fourDigits?_eq_some]
  constructor
  · rintro ⟨after, h, rfl⟩
    unfold hexEscape at h
    split at h
    · cases h
    · split at h
      · next digits =>
        cases h
        exact digits
      · cases h
  · intro h
    obtain ⟨after, far⟩ := further_of_fourDigits (fourDigits?_eq_some.mp h) c.place
    simp [hexEscape, far, h]

theorem betweenHalves_gives {wanted : Char} :
    (betweenHalves wanted c).Gives () r ↔ c.rest = wanted :: r := by
  unfold betweenHalves
  split
  · next h => simp [h]
  · next next rest h =>
    by_cases hw : next = wanted
    · simp [h, hw, Cursor.advance]
    · simp [h, hw]

theorem isHighHalf_iff : isHighHalf n = true ↔ 0xD800 ≤ n ∧ n ≤ 0xDBFF := by
  simp [isHighHalf]

theorem isLowHalf_iff : isLowHalf n = true ↔ 0xDC00 ≤ n ∧ n ≤ 0xDFFF := by
  simp [isLowHalf]

theorem toNat_ofNat (h : n.isValidChar) : (Char.ofNat n).toNat = n := by
  rw [Char.ofNat, dif_pos h]
  rfl

/-- No character has the code point of a surrogate. -/
theorem not_half (x : Char) : ¬ isLowHalf x.toNat = true ∧ ¬ isHighHalf x.toNat = true := by
  rw [isLowHalf_iff, isHighHalf_iff]
  rcases x.valid with low | ⟨high, -⟩
  · have : x.toNat < 0xD800 := low
    omega
  · have : 0xDFFF < x.toNat := high
    omega

theorem character_of_hexCharacter (h : (hexCharacter c).Gives x r) :
    Character ('\\' :: 'u' :: c.rest) x r := by
  unfold hexCharacter at h
  rcases hf : hexEscape c with f | ⟨n, c₁⟩
  · simp [hf] at h
  have first := hexEscape_gives.mp ⟨c₁, hf, rfl⟩
  have bound := first.lt
  by_cases low : isLowHalf n = true
  · simp [hf, low] at h
  by_cases high : isHighHalf n = true
  · rcases hb : betweenHalves '\\' c₁ with f | ⟨_, c₂⟩
    · simp [hf, low, high, hb] at h
    rcases hu : betweenHalves 'u' c₂ with f | ⟨_, c₃⟩
    · simp [hf, low, high, hb, hu] at h
    rcases hs : hexEscape c₃ with f | ⟨m, c₄⟩
    · simp [hf, low, high, hb, hu, hs] at h
    by_cases isLow : isLowHalf m = true
    · simp [hf, low, high, hb, hu, hs, isLow] at h
      obtain ⟨rfl, rfl⟩ := h
      rw [betweenHalves_gives.mp ⟨c₂, hb, rfl⟩, betweenHalves_gives.mp ⟨c₃, hu, rfl⟩] at first
      have second := hexEscape_gives.mp ⟨c₄, hs, rfl⟩
      rw [isHighHalf_iff] at high
      rw [isLowHalf_iff] at isLow
      apply Character.pair first second high isLow
      rw [toNat_ofNat (.inr (by omega))]
      omega
    · simp [hf, low, high, hb, hu, hs, isLow] at h
  · simp [hf, low, high] at h
    obtain ⟨rfl, rfl⟩ := h
    rw [isLowHalf_iff] at low
    rw [isHighHalf_iff] at high
    have valid : n.isValidChar := by
      unfold Nat.isValidChar
      omega
    apply Character.code
    rwa [toNat_ofNat valid]

theorem hexCharacter_of_code (h : FourDigits c.rest x.toNat r) : (hexCharacter c).Gives x r := by
  obtain ⟨after, first, rest⟩ := hexEscape_gives.mpr h
  obtain ⟨notLow, notHigh⟩ := not_half x
  simp [hexCharacter, first, notLow, notHigh, rest]

theorem hexCharacter_of_pair {high low : Nat} {s : List Char}
    (first : FourDigits c.rest high ('\\' :: 'u' :: s)) (second : FourDigits s low r)
    (isHigh : 0xD800 ≤ high ∧ high ≤ 0xDBFF) (isLow : 0xDC00 ≤ low ∧ low ≤ 0xDFFF)
    (h : x.toNat = 0x10000 + (high - 0xD800) * 0x400 + (low - 0xDC00)) :
    (hexCharacter c).Gives x r := by
  obtain ⟨c₁, first, rest₁⟩ := hexEscape_gives.mpr first
  obtain ⟨c₂, backslash, rest₂⟩ := betweenHalves_gives.mpr rest₁
  obtain ⟨c₃, letter, rest₃⟩ := betweenHalves_gives.mpr rest₂
  rw [← rest₃] at second
  obtain ⟨c₄, second, rest₄⟩ := hexEscape_gives.mpr second
  have notLow : ¬ isLowHalf high = true := by
    rw [isLowHalf_iff]
    omega
  have isHigh := isHighHalf_iff.mpr isHigh
  have isLow := isLowHalf_iff.mpr isLow
  have value : (high - 0xD800) * 0x400 + (low - 0xDC00) + 0x10000 = x.toNat := by omega
  simp [hexCharacter, first, notLow, isHigh, backslash, letter, second, isLow, rest₄, value]

theorem hexCharacter_gives :
    (hexCharacter c).Gives x r ↔ Character ('\\' :: 'u' :: c.rest) x r := by
  refine ⟨character_of_hexCharacter, ?_⟩
  intro h
  cases h with
  | plain _ _ backslash => exact absurd rfl backslash
  | letter h => simp [Grammar.letters] at h
  | code h => exact hexCharacter_of_code h
  | pair first second isHigh isLow h => exact hexCharacter_of_pair first second isHigh isLow h

theorem letterMeaning?_eq_some {l : Char} :
    letterMeaning? l = some x ↔ (l, x) ∈ Grammar.letters := by
  unfold letterMeaning?
  split <;> simp_all [Grammar.letters, eq_comm]

theorem escape_gives : (escape c).Gives x r ↔ Character ('\\' :: c.rest) x r := by
  rcases hc : c.rest with _ | ⟨l, t⟩
  · simp only [escape, hc, not_gives_failAt, false_iff]
    rintro (⟨-, -, backslash⟩)
    exact backslash rfl
  have next : c.advance.rest = t := by simp [Cursor.advance, hc]
  by_cases hu : l = 'u'
  · subst hu
    rw [← next, ← hexCharacter_gives]
    simp [escape, hc]
  · have meets : (escape c).Gives x r ↔ letterMeaning? l = some x ∧ t = r := by
      rcases hm : letterMeaning? l with _ | m
      · simp [escape, hc, hm]
      · simp [escape, hc, hm, next]
    rw [meets, letterMeaning?_eq_some]
    constructor
    · rintro ⟨h, rfl⟩
      exact .letter h
    · intro h
      cases h with
      | plain _ _ backslash => exact absurd rfl backslash
      | letter h => exact ⟨h, rfl⟩
      | code => exact absurd rfl hu
      | pair => exact absurd rfl hu

/-! ## Characters up to a quotation mark -/

theorem character_cons_iff (backslash : x ≠ '\\') {y : Char} :
    Character (x :: t) y r ↔ 0x20 ≤ x.toNat ∧ x ≠ '"' ∧ x = y ∧ t = r := by
  constructor
  · intro h
    cases h with
    | plain visible quote => exact ⟨visible, quote, rfl, rfl⟩
    | letter => exact absurd rfl backslash
    | code => exact absurd rfl backslash
    | pair => exact absurd rfl backslash
  · rintro ⟨visible, quote, rfl, rfl⟩
    exact .plain visible quote backslash

theorem quoted_of_stringChars {read cs : List Char} {fuel : Nat}
    (h : (stringChars read fuel c).Gives cs r) :
    ∃ text, cs = text.reverse ++ read ∧ Quoted c.rest text r := by
  induction fuel generalizing c read with
  | zero => simp [stringChars] at h
  | succ fuel ih =>
    -- Whichever character comes first, the rest is read with it.
    have further {x : Char} {c' : Cursor} (first : Character c.rest x c'.rest)
        (h : (stringChars (x :: read) fuel c').Gives cs r) :
        ∃ text, cs = text.reverse ++ read ∧ Quoted c.rest text r := by
      obtain ⟨text, rfl, more⟩ := ih h
      exact ⟨x :: text, by simp, .character first more⟩
    unfold stringChars at h
    split at h
    · simp at h
    · next t hc =>
      rw [gives_ok] at h
      obtain ⟨rfl, rfl⟩ := h
      refine ⟨[], rfl, ?_⟩
      simp only [Cursor.advance, hc]
      exact .close
    · next t hc =>
      split at h
      · simp at h
      · next x c' escaped =>
        apply further _ h
        have := escape_gives.mp ⟨c', escaped, rfl⟩
        simpa [Cursor.advance, hc] using this
    · next x t quote backslash hc =>
      split at h
      · simp at h
      · next visible =>
        apply further _ h
        simp only [Cursor.advance, hc]
        apply Character.plain (Nat.le_of_not_lt visible)
        · rintro rfl
          exact quote rfl
        · rintro rfl
          exact backslash rfl

theorem stringChars_of_quoted {text : List Char} (h : Quoted t text r) (hc : c.rest = t)
    {fuel : Nat} (size : t.length < fuel) (read : List Char) :
    (stringChars read fuel c).Gives (text.reverse ++ read) r := by
  induction h generalizing c fuel read with
  | close =>
    obtain ⟨fuel, rfl⟩ := Nat.exists_eq_add_one_of_ne_zero (Nat.ne_zero_of_lt size)
    simp [stringChars, hc, Cursor.advance]
  | @character x text t s r first more ih =>
    obtain ⟨fuel, rfl⟩ := Nat.exists_eq_add_one_of_ne_zero (Nat.ne_zero_of_lt size)
    have shorter : s.length < fuel := by
      have := first.length_lt
      omega
    have further {c' : Cursor} (hc' : c'.rest = s) :
        (stringChars (x :: read) fuel c').Gives ((x :: text).reverse ++ read) r := by
      simpa using ih hc' shorter (x :: read)
    -- A backslash comes before every escape, and before nothing else.
    rcases t with _ | ⟨y, t⟩
    · simp at size
      cases first
    · by_cases backslash : y = '\\'
      · subst backslash
        have next : c.advance.rest = t := by simp [Cursor.advance, hc]
        rw [← next] at first
        obtain ⟨c', escaped, hs⟩ := escape_gives.mpr first
        simp only [stringChars, hc, escaped]
        exact further hs
      · obtain ⟨visible, quote, rfl, rfl⟩ := (character_cons_iff backslash).mp first
        have visible : ¬ y.toNat < 0x20 := Nat.not_lt.mpr visible
        have next : c.advance.rest = t := by simp [Cursor.advance, hc]
        simp only [stringChars, hc, visible, if_false]
        exact further next

theorem quoted_of_string {size : Nat} {s : String} (h : (string size c).Gives s r) :
    Quoted c.rest s.toList r := by
  rcases hc : stringChars [] size c with f | ⟨cs, after⟩
  · simp [string, hc] at h
  · simp only [string, hc, gives_ok] at h
    obtain ⟨rfl, rfl⟩ := h
    obtain ⟨text, rfl, quoted⟩ := quoted_of_stringChars ⟨after, hc, rfl⟩
    simpa using quoted

theorem string_of_quoted {size : Nat} {s : String} (h : Quoted c.rest s.toList r)
    (short : c.rest.length < size) : (string size c).Gives s r := by
  obtain ⟨after, hc, rest⟩ := stringChars_of_quoted h rfl short []
  simp [string, hc, rest]

end Reader

end GuestWatch.Json
