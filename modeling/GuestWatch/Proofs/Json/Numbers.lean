import GuestWatch.Proofs.Json.Strings
import GuestWatch.Proofs.Text.Numerals

/-! # Reading numbers

A number is read as natural exactly where it is written in plain digits without a zero before them.
With a sign, a fraction or an exponent, or when it is too large, it is read as another kind of
number whatever its value.
-/
namespace GuestWatch.Json

/-! ## Plain digits -/

namespace Grammar

variable {n d : Nat} {x : Char} {cs r : List Char}

theorem digitChar_toNat (h : x.isDigit = true) :
    Text.Decimal.digitChar (x.toNat - '0'.toNat) = x := by
  have : '0'.toNat ≤ x.toNat := (Char.isDigit_iff_toNat.mp h).1
  rw [show '0'.toNat = 48 from rfl] at this ⊢
  rw [Text.Decimal.digitChar, Nat.add_sub_cancel' this, Char.ofNat_toNat]

theorem digits_add (h : 0 < n) (hd : d < 10) : Text.Decimal.digits (n * 10 + d) =
    Text.Decimal.digits n ++ [Text.Decimal.digitChar d] := by
  have large : ¬ n * 10 + d < 10 := by omega
  have tens : (n * 10 + d) / 10 = n := by omega
  have ones : (n * 10 + d) % 10 = d := by omega
  rw [Text.Decimal.digits, if_neg large, tens, ones]

theorem digitChar_ne_zero : ∀ d < 10, 0 < d → Text.Decimal.digitChar d ≠ '0' := by decide

theorem digits_eq_cons (h : 0 < n) : ∃ x cs, Text.Decimal.digits n = x :: cs ∧ x ≠ '0' := by
  induction n using Text.Decimal.digits.induct with
  | case1 n small =>
    rw [Text.Decimal.digits, if_pos small]
    exact ⟨_, [], rfl, digitChar_ne_zero n small h⟩
  | case2 n large ih =>
    obtain ⟨x, cs, first, positive⟩ := ih (by omega)
    rw [Text.Decimal.digits, if_neg large, first]
    exact ⟨x, _, rfl, positive⟩

theorem digits_zero : Text.Decimal.digits 0 = ['0'] := by
  rw [Text.Decimal.digits]
  rfl

theorem toNat_lt_of_isDigit (h : x.isDigit = true) : x.toNat - '0'.toNat < 10 := by
  have : x.toNat ≤ '9'.toNat := (Char.isDigit_iff_toNat.mp h).2
  simp at *
  omega

theorem digits_of_isDigit (h : x.isDigit = true) :
    Text.Decimal.digits (x.toNat - '0'.toNat) = [x] := by
  rw [Text.Decimal.digits, if_pos (toNat_lt_of_isDigit h), digitChar_toNat h]

theorem whole_digits (n : Nat) : Whole (Text.Decimal.digits n) := by
  rcases Nat.eq_zero_or_pos n with rfl | h
  · rw [digits_zero]
    exact .zero
  · have digits := (Text.Decimal.digits_digits n).digits
    obtain ⟨x, cs, first, positive⟩ := digits_eq_cons h
    rw [first] at digits ⊢
    exact .positive positive digits

theorem number_digits (n : Nat) : Number (Text.Decimal.digits n) := by
  have parts := @Number.parts [] _ [] [] (by simp) (whole_digits n) .none .none
  simpa using parts

end Grammar

namespace Reader

variable {c after : Cursor} {p : Place} {n s k : Nat} {t r : List Char} {negative : Bool}

theorem takeDigits_cons {x : Char} (digit : x.isDigit = true) :
    takeDigits p s k (x :: t) =
      if s * 10 + (x.toNat - '0'.toNat) ≤ maxSignificand then
        takeDigits (p.after x) (s * 10 + (x.toNat - '0'.toNat)) (k + 1) t
      else (s, k, true, ⟨p, x :: t⟩) := by
  have value : digit? x = some (x.toNat - '0'.toNat) :=
    Text.Decimal.digitValue?_eq_some.mpr ⟨digit, rfl⟩
  simp only [takeDigits, value]

theorem digit?_eq_none {x : Char} (h : ¬ x.isDigit = true) : digit? x = none := by
  rcases hd : digit? x with _ | d
  · rfl
  · exact absurd (Text.Decimal.digitValue?_eq_some.mp hd).1 h

theorem takeDigits_of_not_isDigit (h : ∀ x ∈ t.head?, ¬ x.isDigit = true) :
    takeDigits p s k t = (s, k, false, ⟨p, t⟩) := by
  rcases t with _ | ⟨x, t⟩
  · rfl
  · simp [takeDigits, digit?_eq_none (h x rfl)]

/-- Digits that are taken are those of the number that they are taken into. -/
theorem digits_takeDigits {s' k' : Nat} (h : 0 < s)
    (ht : takeDigits p s k t = (s', k', false, after)) :
    Text.Decimal.digits s ++ t = Text.Decimal.digits s' ++ after.rest := by
  induction t generalizing p s k with
  | nil =>
    cases ht
    rfl
  | cons x t ih =>
    by_cases digit : x.isDigit = true
    · rw [takeDigits_cons digit] at ht
      split at ht
      · rw [← ih (by omega) ht, Grammar.digits_add h (Grammar.toNat_lt_of_isDigit digit),
          Grammar.digitChar_toNat digit]
        simp
      · cases ht
    · have none := @takeDigits_of_not_isDigit p s k (x :: t) (by simpa using digit)
      rw [none] at ht
      cases ht
      rfl

theorem takeDigits_digits {cs : List Char} (digits : Grammar.Digits cs)
    (h : ∀ x ∈ r.head?, ¬ x.isDigit = true)
    (bound : Nat.ofDigitChars 10 cs s ≤ maxSignificand) :
    ∃ p' k', takeDigits p s k (cs ++ r) = (Nat.ofDigitChars 10 cs s, k', false, ⟨p', r⟩) := by
  induction cs generalizing p s k with
  | nil => exact ⟨p, k, takeDigits_of_not_isDigit h⟩
  | cons x cs ih =>
    rw [Nat.ofDigitChars_cons, Nat.mul_comm] at bound ⊢
    have step := Text.Decimal.le_ofDigitChars cs (s * 10 + (x.toNat - '0'.toNat))
    rw [List.cons_append, takeDigits_cons (digits x List.mem_cons_self), if_pos (by omega)]
    exact ih (fun y hy => digits y (List.mem_cons_of_mem x hy)) bound


/-! ## Other kinds of numbers -/

@[simp] theorem real_not_natural {e : Int} : ¬ (real negative s e c).Gives (.natural n) r := by
  unfold real
  split <;> simp

@[simp] theorem exponentPart_not_natural {e : Int} :
    ¬ (exponentPart negative s e c).Gives (.natural n) r := by
  unfold exponentPart
  dsimp only
  repeat' split
  all_goals simp

@[simp] theorem withExponent_not_natural {e : Int} :
    ¬ (withExponent negative s e c).Gives (.natural n) r := by
  unfold withExponent
  split <;> simp

@[simp] theorem fractionPart_not_natural {e : Int} :
    ¬ (fractionPart negative s e c).Gives (.natural n) r := by
  unfold fractionPart
  dsimp only
  repeat' split
  all_goals simp

/-- Only without a sign, a fraction and an exponent is a number natural. -/
theorem natural_of_afterWhole (h : (afterWhole negative s c).Gives (.natural n) r) :
    negative = false ∧ n = s ∧ c.rest = r := by
  unfold afterWhole at h
  split at h
  · exact absurd h fractionPart_not_natural
  · exact absurd h exponentPart_not_natural
  · exact absurd h exponentPart_not_natural
  · split at h
    · next positive =>
      rw [gives_ok, Number.natural.injEq] at h
      exact ⟨by simpa using positive, h.1.symm, h.2⟩
    · split at h
      · exact absurd h real_not_natural
      · simp at h

theorem afterWhole_of_ends (h : Grammar.Ends c.rest) :
    (afterWhole false s c).Gives (.natural s) c.rest := by
  unfold afterWhole
  split
  · next hc => exact absurd (h '.' (by simp [hc])) (by decide)
  · next hc => exact absurd (h 'e' (by simp [hc])) (by decide)
  · next hc => exact absurd (h 'E' (by simp [hc])) (by decide)
  · simp

/-! ## Numbers -/

theorem digits_takeDigits_first {x : Char} {s' k' : Nat} (digit : x.isDigit = true)
    (positive : x ≠ '0') (h : takeDigits p 0 0 (x :: t) = (s', k', false, after)) :
    x :: t = Text.Decimal.digits s' ++ after.rest := by
  have nonzero : 0 < x.toNat - '0'.toNat := by
    apply Nat.pos_of_ne_zero
    intro h0
    have := Grammar.digits_of_isDigit digit
    rw [h0, Grammar.digits_zero] at this
    simp at this
    exact positive this.symm
  rw [takeDigits_cons digit, Nat.zero_mul, Nat.zero_add] at h
  split at h
  · rw [← digits_takeDigits nonzero h, Grammar.digits_of_isDigit digit]
    rfl
  · cases h

theorem natural_of_unsigned (h : (unsigned negative c).Gives (.natural n) r) :
    negative = false ∧ c.rest = Text.Decimal.digits n ++ r := by
  unfold unsigned at h
  split at h
  · simp at h
  · next hc =>
    split at h
    · simp at h
    · obtain ⟨positive, rfl, rfl⟩ := natural_of_afterWhole h
      refine ⟨positive, ?_⟩
      simp [Grammar.digits_zero, Cursor.advance, hc]
  · next hc =>
    obtain ⟨positive, rfl, rfl⟩ := natural_of_afterWhole h
    refine ⟨positive, ?_⟩
    simp [Grammar.digits_zero, Cursor.advance, hc]
  · next x t more last hc =>
    split at h
    · simp at h
    · next d hd =>
      have digit := (Text.Decimal.digitValue?_eq_some.mp hd).1
      have first : x ≠ '0' := by
        rintro rfl
        rcases t with _ | ⟨y, t⟩
        · exact last rfl rfl
        · exact more y t rfl rfl
      rw [hc] at h ⊢
      rcases taken : takeDigits c.place 0 0 (x :: t) with ⟨s, k, beyond, after⟩
      cases beyond with
      | false =>
        simp only [taken, Bool.false_eq_true, not_false_iff, if_true] at h
        obtain ⟨positive, rfl, rfl⟩ := natural_of_afterWhole h
        exact ⟨positive, digits_takeDigits_first digit first taken⟩
      | true =>
        simp only [taken, not_true, if_false] at h
        split at h <;> simp at h

theorem unsigned_of_natural (hc : c.rest = Text.Decimal.digits n ++ r)
    (bound : n ≤ Text.Decimal.max64) (h : Grammar.Ends r) :
    (unsigned false c).Gives (.natural n) r := by
  rcases Nat.eq_zero_or_pos n with rfl | positive
  · rw [Grammar.digits_zero] at hc
    have next : c.advance.rest = r := by simp [Cursor.advance, hc]
    have alone : (afterWhole false 0 c.advance).Gives (.natural 0) r := by
      rw [← next] at h ⊢
      exact afterWhole_of_ends h
    rcases r with _ | ⟨x, r⟩
    · simpa [unsigned, hc] using alone
    · simpa [unsigned, hc, digit?_eq_none (h.not_isDigit x rfl)] using alone
  · have numeral := Text.Decimal.digits_digits n
    have value : Nat.ofDigitChars 10 (Text.Decimal.digits n) 0 = n := numeral.value
    obtain ⟨p, k, taken⟩ := @takeDigits_digits c.place 0 0 r _ numeral.digits h.not_isDigit
      (by rwa [value])
    obtain ⟨x, cs, first, nonzero⟩ := Grammar.digits_eq_cons positive
    have digit : x.isDigit = true := numeral.digits x (by simp [first])
    have hx : digit? x = some (x.toNat - '0'.toNat) :=
      Text.Decimal.digitValue?_eq_some.mpr ⟨digit, rfl⟩
    rw [value, first, List.cons_append] at taken
    rw [first] at hc
    have alone : (afterWhole false n ⟨p, r⟩).Gives (.natural n) r := afterWhole_of_ends h
    simpa [unsigned, hc, nonzero, hx, taken] using alone

theorem digits_of_number (h : (number c).Gives (.natural n) r) :
    c.rest = Text.Decimal.digits n ++ r := by
  unfold number at h
  split at h
  · cases (natural_of_unsigned h).1
  · exact (natural_of_unsigned h).2

theorem number_of_digits (hc : c.rest = Text.Decimal.digits n ++ r)
    (bound : n ≤ Text.Decimal.max64) (h : Grammar.Ends r) :
    (number c).Gives (.natural n) r := by
  have numeral := Text.Decimal.digits_digits n
  unfold number
  split
  · next minus =>
    rcases first : Text.Decimal.digits n with _ | ⟨x, cs⟩
    · exact absurd first numeral.nonempty
    · rw [minus, first] at hc
      have digit := numeral.digits x (by simp [first])
      cases hc
      exact absurd digit (by decide)
  · exact unsigned_of_natural hc bound h

end Reader

end GuestWatch.Json
