import Mathlib.Tactic.ByContra
import GuestWatch.Proofs.Text.Encoded

/-! # What is ill formed

Octets are read from the left. Where a character stands, it is read. Where none does, the piece
taken is the longest that a character could begin with, and one octet where there is no such piece;
one replacement character stands for it. The decoder reads every octet sequence in this way, and
there is no other way to read it so.
-/
namespace GuestWatch.Text.Utf8

/-- Octets that the encoding of some character begins with. -/
def Begins (bytes : List UInt8) : Prop := ∃ c : Char, bytes <+: String.utf8EncodeChar c

/-- A piece that is ill formed before what follows it: no character stands there, and no longer
piece is the beginning of one. -/
structure IllFormed (piece rest : List UInt8) : Prop where
  nonempty : piece ≠ []
  unreadable : ∀ c : Char, ¬ String.utf8EncodeChar c <+: piece ++ rest
  part : piece.length = 1 ∨ Begins piece
  longest : ∀ longer, longer <+: piece ++ rest → Begins longer → longer.length ≤ piece.length

/-- How octets are read when each maximal ill-formed piece gives one replacement character. -/
inductive Reads : List UInt8 → List Char → Prop
  | nil : Reads [] []
  | character (c : Char) {rest : List UInt8} {cs : List Char} (h : Reads rest cs) :
    Reads (String.utf8EncodeChar c ++ rest) (c :: cs)
  | illFormed {piece rest : List UInt8} {cs : List Char} (h : IllFormed piece rest)
    (h' : Reads rest cs) : Reads (piece ++ rest) (replacement :: cs)

variable {bytes piece rest more : List UInt8} {b low high : UInt8} {left code : Nat}
  {cs cs' : List Char} {c : Char}

/-! ## Octets of characters -/

theorem toNat_ofNat {n : Nat} (valid : n.isValidChar) : (Char.ofNat n).val.toNat = n := by
  rw [Char.ofNat, dif_pos valid]
  rfl

theorem eq_ofNat {n : Nat} (h : n = b.toNat) : UInt8.ofNat n = b := by
  rw [h, UInt8.ofNat_toNat]

variable {n : Nat}

theorem encodeChar_one (h : b < 0x80) : String.utf8EncodeChar (Char.ofNat b.toNat) = [b] := by
  have small : b.toNat < 0x80 := UInt8.lt_iff_toNat_lt.mp h
  have valid : b.toNat.isValidChar := .inl (by omega)
  simp only [String.utf8EncodeChar, toNat_ofNat valid]
  rw [if_pos (by omega), UInt8.ofNat_toNat]

theorem encodeChar_two (hb : b.toNat = n + 192) (hn : 2 ≤ n ∧ n < 32) {x : UInt8}
    (hx : 0x80 ≤ x.toNat ∧ x.toNat ≤ 0xBF) : ∃ c : Char, [b, x] = String.utf8EncodeChar c := by
  refine ⟨Char.ofNat (n * 64 + (x.toNat - 128)), ?_⟩
  have valid : (n * 64 + (x.toNat - 128)).isValidChar := .inl (by omega)
  simp only [String.utf8EncodeChar, toNat_ofNat valid]
  rw [if_neg (by omega), if_pos (by omega), eq_ofNat, eq_ofNat]
  · omega
  · omega

theorem encodeChar_three (hb : b.toNat = n + 224) (hn : n < 16) {x y : UInt8}
    (hx : 0x80 ≤ x.toNat ∧ x.toNat ≤ 0xBF) (hy : 0x80 ≤ y.toNat ∧ y.toNat ≤ 0xBF)
    (short : n = 0 → 0xA0 ≤ x.toNat) (surrogate : n = 13 → x.toNat ≤ 0x9F) :
    ∃ c : Char, [b, x, y] = String.utf8EncodeChar c := by
  refine ⟨Char.ofNat ((n * 64 + (x.toNat - 128)) * 64 + (y.toNat - 128)), ?_⟩
  have valid : ((n * 64 + (x.toNat - 128)) * 64 + (y.toNat - 128)).isValidChar := by
    by_cases low : n < 14
    · exact .inl (by omega)
    · exact .inr (by omega)
  simp only [String.utf8EncodeChar, toNat_ofNat valid]
  rw [if_neg (by omega), if_neg (by omega), if_pos (by omega), eq_ofNat, eq_ofNat, eq_ofNat]
  · omega
  · omega
  · omega

theorem encodeChar_four (hb : b.toNat = n + 240) (hn : n < 5) {x y z : UInt8}
    (hx : 0x80 ≤ x.toNat ∧ x.toNat ≤ 0xBF) (hy : 0x80 ≤ y.toNat ∧ y.toNat ≤ 0xBF)
    (hz : 0x80 ≤ z.toNat ∧ z.toNat ≤ 0xBF)
    (short : n = 0 → 0x90 ≤ x.toNat) (last : n = 4 → x.toNat ≤ 0x8F) :
    ∃ c : Char, [b, x, y, z] = String.utf8EncodeChar c := by
  refine ⟨Char.ofNat (((n * 64 + (x.toNat - 128)) * 64 + (y.toNat - 128)) * 64 + (z.toNat - 128)),
    ?_⟩
  have valid : (((n * 64 + (x.toNat - 128)) * 64 + (y.toNat - 128)) * 64 +
    (z.toNat - 128)).isValidChar := .inr (by omega)
  simp only [String.utf8EncodeChar, toNat_ofNat valid]
  rw [if_neg (by omega), if_neg (by omega), if_neg (by omega), eq_ofNat, eq_ofNat, eq_ofNat,
    eq_ofNat]
  · omega
  · omega
  · omega
  · omega

/-! ## Characters that have been begun -/

/-- Octets after which the decoder owes some: it has given nothing for them yet, and whatever fits
what is owed completes the encoding of a character. -/
structure Begun (piece : List UInt8) (left : Nat) (low high : UInt8) (code : Nat) : Prop where
  fits : low ≤ high
  reads : ∀ more, decodeChars (piece ++ more) = decodeFrom (.inside left low high code) more
  completes : ∀ b more, low ≤ b → b ≤ high → more.length = left →
    (∀ x ∈ more, 0x80 ≤ x ∧ x ≤ 0xBF) → ∃ c : Char, piece ++ b :: more = String.utf8EncodeChar c

/-- A lower limit that is raised in one case. -/
theorem raised {low low' x : UInt8} (h : (if n = 0 then low' else low) ≤ x) (hl : low ≤ low') :
    low.toNat ≤ x.toNat ∧ (n = 0 → low'.toNat ≤ x.toNat) := by
  by_cases first : n = 0
  · rw [if_pos first] at h
    exact ⟨Nat.le_trans hl h, fun _ => h⟩
  · rw [if_neg first] at h
    exact ⟨h, fun is => absurd is first⟩

/-- An upper limit that is lowered in one case. -/
theorem lowered {high high' x : UInt8} {last : Nat} (h : x ≤ if n = last then high' else high)
    (hh : high' ≤ high) : x.toNat ≤ high.toNat ∧ (n = last → x.toNat ≤ high'.toNat) := by
  by_cases is : n = last
  · rw [if_pos is] at h
    exact ⟨Nat.le_trans h hh, fun _ => h⟩
  · rw [if_neg is] at h
    exact ⟨h, fun last => absurd last is⟩

theorem limits_three : ∀ n < 16,
    (if n = 0 then 0xA0 else 0x80 : UInt8) ≤ if n = 13 then 0x9F else 0xBF := by decide

theorem limits_four : ∀ n < 5,
    (if n = 0 then 0x90 else 0x80 : UInt8) ≤ if n = 4 then 0x8F else 0xBF := by decide

theorem begun_of_lead (fits : low ≤ high) (h : lead b = ([], .inside left low high code))
    (completes : ∀ x more, low ≤ x → x ≤ high → more.length = left →
      (∀ y ∈ more, 0x80 ≤ y ∧ y ≤ 0xBF) →
        ∃ c : Char, [b] ++ x :: more = String.utf8EncodeChar c) :
    Begun [b] left low high code := by
  refine ⟨fits, ?_, completes⟩
  intro more
  rw [List.singleton_append, decodeChars_cons, h, List.nil_append]

/-- What the decoder does with an octet at the start of a character: it reads it as one, replaces
it, or has begun one. -/
theorem lead_cases (b : UInt8) :
    (b < 0x80 ∧ lead b = ([Char.ofNat b.toNat], .start)) ∨ lead b = ([replacement], .start) ∨
      ∃ left low high code, lead b = ([], .inside left low high code) ∧
        Begun [b] left low high code := by
  have named {n : Nat} {x : List Char × State} (hb : b.toNat = n) (h : lead (UInt8.ofNat n) = x) :
      lead b = x := by rwa [eq_ofNat hb.symm] at h
  by_cases one : b < 0x80
  · exact .inl ⟨one, named rfl (lead_one _ (UInt8.lt_iff_toNat_lt.mp one))⟩
  by_cases small : b < 0xC2
  · refine .inr (.inl ?_)
    rw [lead, if_neg one, if_pos small]
  simp only [UInt8.lt_iff_toNat_lt, UInt8.reduceToNat] at one small
  by_cases two : b.toNat < 0xE0
  · obtain ⟨n, hn⟩ : ∃ n, b.toNat = n + 192 := ⟨_, (Nat.sub_add_cancel (by omega)).symm⟩
    have h := named hn (lead_two n (by omega) (by omega))
    refine .inr (.inr ⟨_, _, _, _, h, begun_of_lead (by decide) h ?_⟩)
    intro x more hx hx' owed rest
    obtain rfl := List.eq_nil_of_length_eq_zero owed
    exact encodeChar_two hn (by omega) ⟨hx, hx'⟩
  by_cases three : b.toNat < 0xF0
  · obtain ⟨n, hn⟩ : ∃ n, b.toNat = n + 224 := ⟨_, (Nat.sub_add_cancel (by omega)).symm⟩
    have h := named hn (lead_three n (by omega))
    refine .inr (.inr ⟨_, _, _, _, h, begun_of_lead (limits_three n (by omega)) h ?_⟩)
    intro x more hx hx' owed rest
    obtain ⟨y, rfl⟩ := List.length_eq_one_iff.mp owed
    obtain ⟨lower, short⟩ := raised hx (by decide)
    obtain ⟨upper, surrogate⟩ := lowered hx' (by decide)
    exact encodeChar_three hn (by omega) ⟨lower, upper⟩ (rest y List.mem_cons_self) short surrogate
  by_cases four : b.toNat < 0xF5
  · obtain ⟨n, hn⟩ : ∃ n, b.toNat = n + 240 := ⟨_, (Nat.sub_add_cancel (by omega)).symm⟩
    have h := named hn (lead_four n (by omega))
    refine .inr (.inr ⟨_, _, _, _, h, begun_of_lead (limits_four n (by omega)) h ?_⟩)
    intro x more hx hx' owed rest
    obtain ⟨y, more, rfl⟩ := List.exists_cons_of_length_eq_add_one owed
    obtain ⟨z, rfl⟩ := List.length_eq_one_iff.mp (Nat.succ.inj owed)
    obtain ⟨lower, short⟩ := raised hx (by decide)
    obtain ⟨upper, last⟩ := lowered hx' (by decide)
    exact encodeChar_four hn (by omega) ⟨lower, upper⟩ (rest y (by simp)) (rest z (by simp)) short
      last
  · refine .inr (.inl ?_)
    simp only [lead, UInt8.lt_iff_toNat_lt, ← UInt8.toNat_inj, UInt8.reduceToNat]
    rw [if_neg (by omega), if_neg (by omega), if_neg (by omega), if_neg (by omega),
      if_neg (by omega), if_neg (by omega), if_neg (by omega), if_neg (by omega),
      if_neg (by omega)]

/-! ## Every octet is read as something -/

theorem decodeFrom_inside_ne_nil (bytes : List UInt8) :
    decodeFrom (.inside left low high code) bytes ≠ [] := by
  induction bytes generalizing left low high code with
  | nil => simp [decodeFrom, close]
  | cons b bytes ih =>
    rw [decodeFrom_cons]
    by_cases fits : low ≤ b ∧ b ≤ high
    · cases left with
      | zero => simp [step, fits]
      | succ left => simpa [step, fits] using ih
    · simp [step, fits]

theorem decodeChars_eq_nil : decodeChars bytes = [] ↔ bytes = [] := by
  cases bytes with
  | nil => simp [decodeChars, decodeFrom, close]
  | cons b bytes =>
    rw [decodeChars_cons]
    rcases lead_cases b with ⟨-, h⟩ | h | ⟨left, low, high, code, h, -⟩
    · simp [h]
    · simp [h]
    · simp [h, decodeFrom_inside_ne_nil]

theorem decodeChars_encodeChar (c : Char) : decodeChars (String.utf8EncodeChar c) = [c] := by
  have read := decodeChars_encodeChar_append [] c
  rwa [List.append_nil, decodeChars_eq_nil.mpr rfl] at read

/-- No character is encoded by the encoding of another one with something after it. -/
theorem eq_nil_of_encodeChar_append {c' : Char}
    (h : String.utf8EncodeChar c ++ more = String.utf8EncodeChar c') : more = [] := by
  have read := congrArg decodeChars h
  rw [decodeChars_encodeChar_append, decodeChars_encodeChar] at read
  exact decodeChars_eq_nil.mp (List.cons_eq_cons.mp read).2

/-- What gives a replacement character and then something else is no encoding. -/
theorem ne_encodeChar (hm : more ≠ [])
    (h : decodeChars bytes = replacement :: decodeChars more) :
    bytes ≠ String.utf8EncodeChar c := by
  rintro rfl
  rw [decodeChars_encodeChar] at h
  exact hm (decodeChars_eq_nil.mp (List.cons_eq_cons.mp h).2.symm)

namespace Begun

/-- There is a character that goes on after what has been begun. -/
theorem goes_on (h : Begun piece left low high code) :
    ∃ (c : Char) (b : UInt8) (more : List UInt8), piece ++ b :: more = String.utf8EncodeChar c := by
  have owed : ∀ x ∈ List.replicate left (0x80 : UInt8), 0x80 ≤ x ∧ x ≤ 0xBF := by
    intro x hx
    rw [List.eq_of_mem_replicate hx]
    decide
  obtain ⟨c, hc⟩ :=
    h.completes low (List.replicate left 0x80) (UInt8.le_refl low) h.fits (by simp) owed
  exact ⟨c, low, _, hc⟩

theorem begins (h : Begun piece left low high code) : Begins piece := by
  obtain ⟨c, b, more, hc⟩ := h.goes_on
  exact ⟨c, _, hc⟩

theorem ne_nil (h : Begun piece left low high code) : piece ≠ [] := by
  rintro rfl
  have nothing := h.reads []
  simp [decodeFrom, close, decodeChars] at nothing

/-- An octet that a begun character can go on with fits what the decoder owes. -/
theorem fits_of_begins (h : Begun piece left low high code) (hb : Begins (piece ++ [b])) :
    low ≤ b ∧ b ≤ high := by
  obtain ⟨c, more, hc⟩ := hb
  by_contra no
  have read : decodeChars (piece ++ [b] ++ more) = replacement :: decodeChars (b :: more) := by
    rw [List.append_assoc, List.singleton_append, h.reads, decodeFrom_cons, step, if_neg no]
    rfl
  exact ne_encodeChar (List.cons_ne_nil b more) read hc

/-- A begun character that does not go on is ill formed. -/
theorem illFormed (h : Begun piece left low high code)
    (stops : ∀ b ∈ bytes.head?, ¬ (low ≤ b ∧ b ≤ high)) : IllFormed piece bytes := by
  have alone : ∀ longer, longer <+: piece ++ bytes → Begins longer →
      longer.length ≤ piece.length := by
    intro longer hl begins
    by_contra more
    obtain ⟨tail, rfl⟩ : piece <+: longer :=
      List.prefix_of_prefix_length_le (List.prefix_append _ _) hl (by omega)
    cases tail with
    | nil => simp at more
    | cons b tail =>
      have first : bytes.head? = some b := by
        obtain ⟨after, rfl⟩ := (List.prefix_append_right_inj piece).mp hl
        rfl
      obtain ⟨c, hc⟩ := begins
      have here : piece ++ [b] <+: piece ++ b :: tail := by simp
      exact stops b first (h.fits_of_begins ⟨c, here.trans hc⟩)
  refine ⟨h.ne_nil, ?_, .inr h.begins, alone⟩
  intro c hc
  -- A whole character would be no longer than the piece, which is short of one.
  have short := alone _ hc ⟨c, List.prefix_rfl⟩
  obtain ⟨t, rfl⟩ := List.prefix_of_prefix_length_le hc (List.prefix_append _ _) short
  obtain ⟨c', b, more, hc'⟩ := h.goes_on
  rw [List.append_assoc] at hc'
  have nothing := eq_nil_of_encodeChar_append hc'
  simp at nothing

theorem step (h : Begun piece (left + 1) low high code) (hb : low ≤ b ∧ b ≤ high) :
    Begun (piece ++ [b]) left 0x80 0xBF (code * 64 + (b.toNat - 0x80)) := by
  refine ⟨by decide, ?_, ?_⟩
  · intro more
    rw [List.append_assoc, List.singleton_append, h.reads, decodeFrom_cons, Utf8.step, if_pos hb]
    rfl
  · intro x more hx hx' owed rest
    rw [List.append_assoc, List.singleton_append]
    exact h.completes b (x :: more) hb.1 hb.2 (by simp [owed])
      (List.forall_mem_cons.mpr ⟨⟨hx, hx'⟩, rest⟩)

theorem last (h : Begun piece 0 low high code) (hb : low ≤ b ∧ b ≤ high) :
    piece ++ [b] = String.utf8EncodeChar (Char.ofNat (code * 64 + (b.toNat - 0x80))) := by
  obtain ⟨c, hc⟩ := h.completes b [] hb.1 hb.2 rfl (by simp)
  have read : [c] = [Char.ofNat (code * 64 + (b.toNat - 0x80))] := by
    rw [← decodeChars_encodeChar, ← hc, h.reads, decodeFrom_cons, Utf8.step, if_pos hb]
    rfl
  rw [hc, (List.cons_eq_cons.mp read).1]

end Begun

/-- An octet that gives a replacement character at once begins none. -/
theorem lead_illFormed (h : lead b = ([replacement], .start)) : IllFormed [b] rest := by
  have none : ¬ Begins [b] := by
    rintro ⟨c, more, hc⟩
    have read : decodeChars ([b] ++ more) = replacement :: decodeChars more := by
      rw [List.singleton_append, decodeChars_cons, h]
      rfl
    by_cases alone : more = []
    · subst alone
      rw [hc, decodeChars_encodeChar] at read
      cases read
      have long : (String.utf8EncodeChar replacement).length = 3 := rfl
      rw [← hc] at long
      cases long
    · exact ne_encodeChar alone read hc
  have whole : ∀ longer, longer <+: [b] ++ rest → Begins longer → longer = [] := by
    intro longer hl begins
    cases longer with
    | nil => rfl
    | cons b' longer =>
      obtain ⟨rfl, -⟩ := List.cons_prefix_cons.mp hl
      obtain ⟨c, hc⟩ := begins
      exact absurd ⟨c, (List.prefix_append [b'] longer).trans hc⟩ none
  refine ⟨by simp, ?_, .inl rfl, ?_⟩
  · intro c hc
    have read := decodeChars_encodeChar c
    rw [whole _ hc ⟨c, List.prefix_rfl⟩] at read
    cases read
  · intro longer hl begins
    rw [whole longer hl begins]
    exact Nat.zero_le _

/-! ## The decoder reads so -/

/-- The decoder reads so from the start of a character, and after the beginning of one. -/
theorem reads_decodeFrom (bytes : List UInt8) :
    Reads bytes (decodeChars bytes) ∧ ∀ piece left low high code, Begun piece left low high code →
      Reads (piece ++ bytes) (decodeFrom (.inside left low high code) bytes) := by
  induction bytes with
  | nil =>
    refine ⟨.nil, ?_⟩
    intro piece left low high code begun
    exact .illFormed (begun.illFormed (by simp)) .nil
  | cons b bytes ih =>
    have start : Reads (b :: bytes) (decodeChars (b :: bytes)) := by
      rw [decodeChars_cons]
      rcases lead_cases b with ⟨ascii, h⟩ | h | ⟨left, low, high, code, h, begun⟩
      · have one := Reads.character (Char.ofNat b.toNat) ih.1
        rw [encodeChar_one ascii] at one
        rwa [h]
      · rw [h]
        exact Reads.illFormed (lead_illFormed h) ih.1
      · rw [h]
        exact ih.2 [b] left low high code begun
    refine ⟨start, ?_⟩
    intro piece left low high code begun
    rw [decodeFrom_cons]
    by_cases fits : low ≤ b ∧ b ≤ high
    · rw [← List.singleton_append, ← List.append_assoc]
      cases left with
      | zero =>
        rw [begun.last fits, step, if_pos fits]
        exact .character _ ih.1
      | succ left =>
        rw [step, if_pos fits]
        exact ih.2 _ _ _ _ _ (begun.step fits)
    · rw [step, if_neg fits]
      exact .illFormed (begun.illFormed (by simpa using fits)) start

/-! ## There is no other way -/

theorem IllFormed.length_le {piece' rest' : List UInt8} (h : IllFormed piece rest)
    (h' : IllFormed piece' rest') (same : piece ++ rest = piece' ++ rest') :
    piece.length ≤ piece'.length := by
  rcases h.part with one | begins
  · rw [one]
    exact List.length_pos_iff.mpr h'.nonempty
  · exact h'.longest piece (same ▸ List.prefix_append piece rest) begins

theorem IllFormed.unique {piece' rest' : List UInt8} (h : IllFormed piece rest)
    (h' : IllFormed piece' rest') (same : piece ++ rest = piece' ++ rest') :
    piece = piece' ∧ rest = rest' :=
  List.append_inj same (Nat.le_antisymm (h.length_le h' same) (h'.length_le h same.symm))

theorem Reads.unique (h : Reads bytes cs) (h' : Reads bytes cs') : cs = cs' := by
  induction h generalizing cs' with
  | nil =>
    generalize whole : ([] : List UInt8) = bytes at h'
    cases h' with
    | nil => rfl
    | character c h' =>
      have nothing := congrArg decodeChars whole
      rw [decodeChars_encodeChar_append] at nothing
      cases nothing
    | illFormed ill' h' => exact absurd (List.append_eq_nil_iff.mp whole.symm).1 ill'.nonempty
  | @character c rest cs h ih =>
    generalize whole : String.utf8EncodeChar c ++ rest = bytes at h'
    cases h' with
    | nil =>
      have nothing := congrArg decodeChars whole
      rw [decodeChars_encodeChar_append] at nothing
      cases nothing
    | character c' h' =>
      have read := congrArg decodeChars whole
      rw [decodeChars_encodeChar_append, decodeChars_encodeChar_append] at read
      obtain ⟨rfl, -⟩ := List.cons_eq_cons.mp read
      rw [ih (List.append_cancel_left whole ▸ h')]
    | illFormed ill' h' => exact absurd (whole ▸ List.prefix_append _ rest) (ill'.unreadable c)
  | @illFormed piece rest cs ill h ih =>
    generalize whole : piece ++ rest = bytes at h'
    cases h' with
    | nil => exact absurd (List.append_eq_nil_iff.mp whole).1 ill.nonempty
    | character c' h' => exact absurd (whole ▸ List.prefix_append _ _) (ill.unreadable c')
    | illFormed ill' h' =>
      obtain ⟨-, rfl⟩ := ill.unique ill' whole
      rw [ih h']

/-- The decoder replaces each maximal ill-formed piece by one replacement character. -/
theorem reads_iff : Reads bytes cs ↔ decodeChars bytes = cs := by
  constructor
  · intro h
    exact (reads_decodeFrom bytes).1.unique h
  · rintro rfl
    exact (reads_decodeFrom bytes).1

end GuestWatch.Text.Utf8
