import GuestWatch.Text.Decimal

/-! # Numerals

Numbers without a sign are read from decimal digits, any number of zeros first, with or without a
plus sign before them, as long as the number is within the bound. They are written with the fewest
digits.
-/
namespace GuestWatch.Text.Decimal

/-- Decimal digits, one or more, and the number that they stand for. -/
structure Digits (cs : List Char) (n : Nat) : Prop where
  nonempty : cs ≠ []
  digits : ∀ c ∈ cs, c.isDigit = true
  value : Nat.ofDigitChars 10 cs 0 = n

/-- Decimal digits with an optional plus sign before them. -/
inductive Numeral : List Char → Nat → Prop
  | unsigned {cs : List Char} {n : Nat} (h : Digits cs n) : Numeral cs n
  | signed {cs : List Char} {n : Nat} (h : Digits cs n) : Numeral ('+' :: cs) n

variable {c : Char} {cs : List Char} {bound value n d : Nat} {beyond : Fault}

/-! ## Reading -/

theorem digitValue?_eq_some :
    digitValue? c = some d ↔ c.isDigit = true ∧ c.toNat - '0'.toNat = d := by
  have same : ('0' ≤ c ∧ c ≤ '9') ↔ c.isDigit = true := by
    rw [Char.isDigit_iff_toNat]
    exact Iff.rfl
  by_cases h : '0' ≤ c ∧ c ≤ '9'
  · simp [digitValue?, h, same.mp h]
  · have : c.isDigit = false := by simpa using fun hd => h (same.mpr hd)
    simp [digitValue?, h, this]

theorem le_ofDigitChars (cs : List Char) (value : Nat) : value ≤ Nat.ofDigitChars 10 cs value := by
  induction cs generalizing value with
  | nil => exact Nat.le_refl value
  | cons c cs ih =>
    rw [Nat.ofDigitChars_cons]
    have := ih (10 * value + (c.toNat - '0'.toNat))
    omega

/-- A number that stays within the bound at its end has been within it all along. -/
theorem scan_eq_ok (h : value ≤ bound) : scan bound beyond value cs = .ok n ↔
    (∀ c ∈ cs, c.isDigit = true) ∧ Nat.ofDigitChars 10 cs value = n ∧ n ≤ bound := by
  induction cs generalizing value with
  | nil =>
    rw [scan, Nat.ofDigitChars_nil]
    constructor
    · rintro ⟨⟩
      exact ⟨by simp, rfl, h⟩
    · rintro ⟨-, rfl, -⟩
      rfl
  | cons c cs ih =>
    rw [scan, Nat.ofDigitChars_cons, List.forall_mem_cons]
    cases hv : digitValue? c with
    | none =>
      have no : ¬ c.isDigit = true := by
        intro hd
        rw [digitValue?_eq_some.mpr ⟨hd, rfl⟩] at hv
        cases hv
      simp [no]
    | some d =>
      obtain ⟨digit, rfl⟩ := digitValue?_eq_some.mp hv
      by_cases fits : value * 10 + (c.toNat - '0'.toNat) ≤ bound
      · simp only [fits, if_true, ih fits, digit, true_and, Nat.mul_comm 10 value]
      · -- The value only grows with the digits that follow.
        have grows := le_ofDigitChars cs (10 * value + (c.toNat - '0'.toNat))
        simp only [fits, if_false, reduceCtorEq, false_iff, not_and]
        rintro - rfl
        omega

theorem scanNonempty_eq_ok : scanNonempty bound beyond cs = .ok n ↔ Digits cs n ∧ n ≤ bound := by
  cases cs with
  | nil =>
    simp only [scanNonempty, reduceCtorEq, false_iff, not_and]
    exact fun h => absurd rfl h.nonempty
  | cons c cs =>
    rw [scanNonempty, scan_eq_ok (Nat.zero_le bound)]
    · constructor
      · rintro ⟨digits, value, fits⟩
        exact ⟨⟨by simp, digits, value⟩, fits⟩
      · rintro ⟨⟨-, digits, value⟩, fits⟩
        exact ⟨digits, value, fits⟩
    · simp

theorem Digits.ne_plus (h : Digits (c :: cs) n) : c ≠ '+' := by
  rintro rfl
  exact absurd (h.digits '+' List.mem_cons_self) (by decide)

theorem readUnsigned_unsigned (h : c ≠ '+') :
    readUnsigned bound (c :: cs) = scanNonempty bound .tooLarge (c :: cs) := by
  rw [readUnsigned]
  · simp
  · simpa using h

theorem readUnsigned_eq_ok : readUnsigned bound cs = .ok n ↔ Numeral cs n ∧ n ≤ bound := by
  constructor
  · intro h
    rcases cs with _ | ⟨c, cs⟩
    · cases h
    · by_cases plus : c = '+'
      · subst plus
        obtain ⟨digits, fits⟩ := scanNonempty_eq_ok.mp h
        exact ⟨.signed digits, fits⟩
      · rw [readUnsigned_unsigned plus] at h
        obtain ⟨digits, fits⟩ := scanNonempty_eq_ok.mp h
        exact ⟨.unsigned digits, fits⟩
  · rintro ⟨numeral, fits⟩
    cases numeral with
    | unsigned digits =>
      rcases cs with _ | ⟨c, cs⟩
      · exact absurd rfl digits.nonempty
      · rw [readUnsigned_unsigned digits.ne_plus]
        exact scanNonempty_eq_ok.mpr ⟨digits, fits⟩
    | signed digits => exact scanNonempty_eq_ok.mpr ⟨digits, fits⟩

/-- A numeral has no characters but digits and plus signs. -/
theorem Numeral.chars (h : Numeral cs n) : ∀ c ∈ cs, c = '+' ∨ c.isDigit = true := by
  intro c hc
  cases h with
  | unsigned digits => exact .inr (digits.digits c hc)
  | signed digits =>
    rcases List.mem_cons.mp hc with plus | hc
    · exact .inl plus
    · exact .inr (digits.digits c hc)

/-! ## Writing -/

theorem digitChar_eq : ∀ d < 10, digitChar d = Nat.digitChar d := by decide

theorem digits_eq (n : Nat) : digits n = Nat.toDigits 10 n := by
  induction n using digits.induct with
  | case1 n small =>
    rw [digits, if_pos small, Nat.toDigits_of_lt_base small, digitChar_eq n small]
  | case2 n large ih =>
    have last := digitChar_eq (n % 10) (Nat.mod_lt n (by decide))
    rw [digits, if_neg large, ih, last,
      Nat.toDigits_of_base_le (by decide) (Nat.le_of_not_lt large)]

/-- What is written of a number stands for it. -/
theorem digits_digits (n : Nat) : Digits (digits n) n where
  nonempty := by
    rw [digits]
    split <;> simp
  digits := by
    intro c hc
    rw [digits_eq] at hc
    exact Nat.isDigit_of_mem_toDigits (by decide) (by decide) hc
  value := by rw [digits_eq, Nat.ofDigitChars_ten_toDigits]

theorem eq_of_digits_eq {m : Nat} (h : digits m = digits n) : m = n := by
  rw [← (digits_digits m).value, h, (digits_digits n).value]

theorem text_inj {m : Nat} : text m = text n ↔ m = n :=
  ⟨fun h => eq_of_digits_eq (String.ofList_injective h), congrArg text⟩

/-- What is written of a number within the bound is read as this number. -/
theorem readUnsigned_digits (h : n ≤ bound) : readUnsigned bound (digits n) = .ok n :=
  readUnsigned_eq_ok.mpr ⟨.unsigned (digits_digits n), h⟩

theorem readSigned64_digits (h : n ≤ Nat.pow 2 63 - 1) :
    readSigned64 (digits n) = .ok (n : Int) := by
  have written := digits_digits n
  have read : scanNonempty _ .tooLarge (digits n) = .ok n := scanNonempty_eq_ok.mpr ⟨written, h⟩
  rcases hd : digits n with _ | ⟨c, cs⟩
  · exact absurd hd written.nonempty
  · rw [hd] at written read
    have minus : c ≠ '-' := by
      rintro rfl
      exact absurd (written.digits '-' List.mem_cons_self) (by decide)
    rw [readSigned64, read]
    · rfl
    · simp
    · simpa using minus
    · simpa using written.ne_plus

/-- Numbers are written in the usual way. -/
theorem text_eq (n : Nat) : text n = toString n := by
  rw [text, digits_eq, Nat.toString_eq_repr, Nat.repr_eq_ofList_toDigits]

end GuestWatch.Text.Decimal
