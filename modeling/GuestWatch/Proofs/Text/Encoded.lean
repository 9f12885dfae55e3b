import GuestWatch.Proofs.Text.LineFeeds

/-! # What has been encoded is read back

The first octet of a character says how many follow and holds the highest bits. The limits it sets
for the second octet leave out nothing but surrogates, codes beyond the last one and those that fit
in fewer octets, and encoding writes none of these.
-/
namespace GuestWatch.Text.Utf8

variable {left code n : Nat} {low high b : UInt8}

theorem lead_one : ∀ n < 128, lead (UInt8.ofNat n) = ([Char.ofNat n], .start) := by decide

theorem lead_two : ∀ n < 32, 2 ≤ n →
    lead (UInt8.ofNat (n + 192)) = ([], .inside 0 0x80 0xBF n) := by decide

theorem lead_three : ∀ n < 16, lead (UInt8.ofNat (n + 224)) =
    ([], .inside 1 (if n = 0 then 0xA0 else 0x80) (if n = 13 then 0x9F else 0xBF) n) := by decide

theorem lead_four : ∀ n < 5, lead (UInt8.ofNat (n + 240)) =
    ([], .inside 2 (if n = 0 then 0x90 else 0x80) (if n = 4 then 0x8F else 0xBF) n) := by decide

/-- An octet after the first, with its six bits. -/
theorem toNat_following (hn : n < 64) : (UInt8.ofNat (n + 128)).toNat = n + 128 := by
  simp only [UInt8.toNat_ofNat']
  omega

theorem step_following (hn : n < 64) (hl : low.toNat ≤ n + 128) (hh : n + 128 ≤ high.toNat) :
    step (.inside left low high code) (UInt8.ofNat (n + 128)) =
      match left with
      | 0 => ([Char.ofNat (code * 64 + n)], .start)
      | left + 1 => ([], .inside left 0x80 0xBF (code * 64 + n)) := by
  have fits : low ≤ UInt8.ofNat (n + 128) ∧ UInt8.ofNat (n + 128) ≤ high := by
    simp only [UInt8.le_iff_toNat_le, toNat_following hn]
    exact ⟨hl, hh⟩
  cases left <;> simp only [step, if_pos fits, toNat_following hn, Nat.add_sub_cancel]

theorem decodeFrom_following (hn : n < 64) (hl : low.toNat ≤ n + 128) (hh : n + 128 ≤ high.toNat)
    (bytes : List UInt8) :
    decodeFrom (.inside (left + 1) low high code) (UInt8.ofNat (n + 128) :: bytes) =
      decodeFrom (.inside left 0x80 0xBF (code * 64 + n)) bytes := by
  rw [decodeFrom_cons, step_following hn hl hh]
  rfl

theorem decodeFrom_last (hn : n < 64) (bytes : List UInt8) :
    decodeFrom (.inside 0 0x80 0xBF code) (UInt8.ofNat (n + 128) :: bytes) =
      Char.ofNat (code * 64 + n) :: decodeChars bytes := by
  rw [decodeFrom_cons, step_following hn (Nat.le_add_left _ _) (by simp; omega)]
  rfl

theorem decodeChars_cons (b : UInt8) (bytes : List UInt8) :
    decodeChars (b :: bytes) = (lead b).1 ++ decodeFrom (lead b).2 bytes := rfl

/-! ## One character -/

variable (bytes : List UInt8)

theorem decodeChars_one (h : n ≤ 0x7F) :
    decodeChars (UInt8.ofNat n :: bytes) = Char.ofNat n :: decodeChars bytes := by
  rw [decodeChars_cons, lead_one n (by omega)]
  rfl

theorem decodeChars_two (h : 0x7F < n) (h' : n ≤ 0x7FF) :
    decodeChars (UInt8.ofNat (n / 64 % 32 + 192) :: UInt8.ofNat (n % 64 + 128) :: bytes) =
      Char.ofNat n :: decodeChars bytes := by
  have bits : n / 64 % 32 * 64 + n % 64 = n := by omega
  rw [decodeChars_cons, lead_two _ (by omega) (by omega), List.nil_append,
    decodeFrom_last (by omega), bits]

theorem decodeChars_three (h : 0x7FF < n) (h' : n < 0xD800 ∨ 0xDFFF < n ∧ n ≤ 0xFFFF) :
    decodeChars (UInt8.ofNat (n / 4096 % 16 + 224) :: UInt8.ofNat (n / 64 % 64 + 128) ::
      UInt8.ofNat (n % 64 + 128) :: bytes) = Char.ofNat n :: decodeChars bytes := by
  have bits : (n / 4096 % 16 * 64 + n / 64 % 64) * 64 + n % 64 = n := by omega
  rw [decodeChars_cons, lead_three _ (by omega), List.nil_append,
    decodeFrom_following (by omega), decodeFrom_last (by omega), bits]
  · split
    · simp only [UInt8.reduceToNat]
      omega
    · simp
  · split
    · simp only [UInt8.reduceToNat]
      omega
    · simp only [UInt8.reduceToNat]
      omega

theorem decodeChars_four (h : 0xFFFF < n) (h' : n < 0x110000) :
    decodeChars (UInt8.ofNat (n / 262144 % 8 + 240) :: UInt8.ofNat (n / 4096 % 64 + 128) ::
      UInt8.ofNat (n / 64 % 64 + 128) :: UInt8.ofNat (n % 64 + 128) :: bytes) =
        Char.ofNat n :: decodeChars bytes := by
  have bits : ((n / 262144 % 8 * 64 + n / 4096 % 64) * 64 + n / 64 % 64) * 64 + n % 64 = n := by
    omega
  rw [decodeChars_cons, lead_four _ (by omega), List.nil_append,
    decodeFrom_following (by omega), decodeFrom_following (by omega), decodeFrom_last (by omega),
    bits]
  · simp
  · simp only [UInt8.reduceToNat]
    omega
  · split
    · simp only [UInt8.reduceToNat]
      omega
    · simp
  · split
    · simp only [UInt8.reduceToNat]
      omega
    · simp only [UInt8.reduceToNat]
      omega

theorem decodeChars_encodeChar_append (c : Char) :
    decodeChars (String.utf8EncodeChar c ++ bytes) = c :: decodeChars bytes := by
  -- No code of a character is a surrogate or beyond the last one.
  have valid : c.toNat < 0xD800 ∨ 0xDFFF < c.toNat ∧ c.toNat < 0x110000 := c.valid
  have code : c.val.toNat = c.toNat := rfl
  conv => rhs; rw [← Char.ofNat_toNat c]
  simp only [String.utf8EncodeChar, code]
  generalize c.toNat = n at valid
  split
  · next one => exact decodeChars_one bytes one
  split
  · next one two => exact decodeChars_two bytes (Nat.lt_of_not_le one) two
  split
  · next two three => exact decodeChars_three bytes (Nat.lt_of_not_le two) (by omega)
  · next three => exact decodeChars_four bytes (Nat.lt_of_not_le three) (by omega)

/-! ## Texts -/

theorem decodeChars_encodeChars (cs : List Char) : decodeChars (encodeChars cs) = cs := by
  induction cs with
  | nil => rfl
  | cons c cs ih =>
    have cons : encodeChars (c :: cs) = String.utf8EncodeChar c ++ encodeChars cs := rfl
    rw [cons, decodeChars_encodeChar_append, ih]

theorem decode_encode (text : String) : decode (encode text) = text := by
  rw [decode, encode, decodeChars_encodeChars, String.ofList_toList]

theorem encode_inj {s t : String} : encode s = encode t ↔ s = t :=
  ⟨fun h => by rw [← decode_encode s, h, decode_encode], congrArg encode⟩

theorem decode?_eq_some {bytes : List UInt8} {text : String} :
    decode? bytes = some text ↔ encode text = bytes := by
  unfold decode?
  constructor
  · intro h
    dsimp only at h
    split at h
    · next encoded =>
      cases h
      exact encoded
    · cases h
  · rintro rfl
    simp [decode_encode]

/-- Octets have a line feed among them exactly if the text has one. -/
theorem newline_mem_decodeChars {bytes : List UInt8} :
    '\n' ∈ decodeChars bytes ↔ 0x0A ∈ bytes := by
  refine ⟨fun h => Decidable.of_not_not fun hb => newline_not_mem_decodeChars hb h, fun h => ?_⟩
  obtain ⟨front, back, rfl, -⟩ := List.eq_append_cons_of_mem h
  rw [decodeChars_append_lineFeed]
  simp

theorem lineFeed_mem_encodeChars {cs : List Char} : 0x0A ∈ encodeChars cs ↔ '\n' ∈ cs := by
  rw [← newline_mem_decodeChars, decodeChars_encodeChars]

end GuestWatch.Text.Utf8
