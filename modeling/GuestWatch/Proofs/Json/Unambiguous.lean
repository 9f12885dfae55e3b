import GuestWatch.Proofs.Json.Strings

/-! # A text says one datum

By the grammar no text is a document of two data. The text of a datum shows by its first character
of which kind the datum is, and what may come after a datum tells where its text ends.
-/
namespace GuestWatch.Json

/-- The character that the text of a datum starts with, unless it is a number. -/
def Datum.mark? : Datum → Option Char
  | .null => some 'n'
  | .bool true => some 't'
  | .bool false => some 'f'
  | .number _ => none
  | .text _ => some '"'
  | .list _ => some '['
  | .object _ => some '\x7b'

namespace Grammar

variable {x y : Char} {t r r' cs literal : List Char} {d d' : Datum} {k k' : String}

/-! ## Blanks -/

theorem Blanks.eq_dropWhile (h : Blanks t r) (visible : ∀ x ∈ r.head?, x ∉ blanks) :
    r = t.dropWhile (· ∈ blanks) := by
  induction h with
  | @done t =>
    cases t with
    | nil => rfl
    | cons x t => rw [List.dropWhile_cons_of_neg (by simpa using visible x rfl)]
  | blank hx _ ih => rw [List.dropWhile_cons_of_pos (by simpa using hx), ih visible]

theorem Blanks.unique (h : Blanks t r) (h' : Blanks t r') (visible : ∀ x ∈ r.head?, x ∉ blanks)
    (visible' : ∀ x ∈ r'.head?, x ∉ blanks) : r = r' :=
  (h.eq_dropWhile visible).trans (h'.eq_dropWhile visible').symm

theorem not_blank_cons (hx : x ∉ blanks) : ∀ y ∈ (x :: r).head?, y ∉ blanks := by
  rintro y ⟨⟩
  exact hx

theorem Blanks.unique_cons (h : Blanks t (x :: r)) (h' : Blanks t (y :: r')) (hx : x ∉ blanks)
    (hy : y ∉ blanks) : x = y ∧ r = r' :=
  List.cons.inj (h.unique h' (not_blank_cons hx) (not_blank_cons hy))

/-! ## Numbers -/

theorem Digits.not_mem_separators (h : Digits cs) : ∀ x ∈ cs, x ∉ separators :=
  fun x hx separates => not_isDigit_of_mem_separators separates (h x hx)

theorem Whole.digits (h : Whole cs) : Digits cs := by
  cases h with
  | zero => simp [Digits]
  | positive _ digits => exact digits

theorem Fraction.not_mem_separators (h : Fraction cs) : ∀ x ∈ cs, x ∉ separators := by
  cases h with
  | none => simp
  | digits _ digits => exact List.forall_mem_cons.mpr ⟨by decide, digits.not_mem_separators⟩

theorem Exponent.not_mem_separators (h : Exponent cs) : ∀ x ∈ cs, x ∉ separators := by
  cases h with
  | none => simp
  | digits letter signed _ digits =>
    have letters : ∀ e ∈ ['e', 'E'], e ∉ separators := by simp [separators, blanks]
    have signs : ∀ sign ∈ [[], ['+'], ['-']], ∀ x ∈ sign, x ∉ separators := by
      simp [separators, blanks]
    exact List.forall_mem_cons.mpr ⟨letters _ letter,
      List.forall_mem_append.mpr ⟨signs _ signed, digits.not_mem_separators⟩⟩

/-- No character of a number may come after one. -/
theorem Number.not_mem_separators (h : Number literal) : ∀ x ∈ literal, x ∉ separators := by
  obtain ⟨signed, whole, fraction, exponent⟩ := h
  have signs : ∀ sign ∈ [[], ['-']], ∀ x ∈ sign, x ∉ separators := by simp [separators, blanks]
  simp only [List.forall_mem_append]
  exact ⟨⟨⟨signs _ signed, whole.digits.not_mem_separators⟩, fraction.not_mem_separators⟩,
    exponent.not_mem_separators⟩

theorem Number.eq_takeWhile (h : Number literal) (ends : Ends r) :
    literal = (literal ++ r).takeWhile (· ∉ separators) := by
  rw [List.takeWhile_append_of_pos (by simpa using h.not_mem_separators)]
  cases r with
  | nil => simp
  | cons x r => simp [ends x rfl]

theorem Number.starts_unmarked (h : Number literal) :
    (literal ++ r).head?.filter (· ∈ ['n', 't', 'f', '"', '[', '\x7b']) = none := by
  have marks : ∀ x ∈ ['n', 't', 'f', '"', '[', '\x7b'], ¬ x.isDigit = true := by simp
  obtain ⟨signed, whole, -, -⟩ := h
  simp only [List.mem_cons, List.not_mem_nil, or_false] at signed
  rcases signed with rfl | rfl
  · have digits := whole.digits
    cases whole with
    | zero => rfl
    | @positive x cs =>
      have unmarked := fun hx => marks x hx (digits x List.mem_cons_self)
      simpa [Option.filter] using unmarked
  · rfl

/-! ## Strings -/

theorem Quoted.unique (h : Quoted t k.toList r) (h' : Quoted t k'.toList r') : k = k' ∧ r = r' := by
  -- The text is read in one way.
  have read : (⟨.start, t⟩ : Cursor).rest.length < t.length + 1 := Nat.lt_succ_self _
  obtain ⟨_, first, rfl⟩ := Reader.string_of_quoted (c := ⟨.start, t⟩) h read
  obtain ⟨_, second, rfl⟩ := Reader.string_of_quoted (c := ⟨.start, t⟩) h' read
  cases first.symm.trans second
  exact ⟨rfl, rfl⟩

/-! ## Values -/

theorem Value.mark (h : Value t d r) :
    d.mark? = t.head?.filter (· ∈ ['n', 't', 'f', '"', '[', '\x7b']) := by
  cases h with
  | number h => exact h.starts_unmarked.symm
  | _ => rfl

/-- No item stands where a list or an object ends. -/
theorem Blanks.not_starts (h : Blanks t (x :: r)) (hx : x ∈ separators) (visible : x ∉ blanks)
    (h' : Blanks t cs) : ¬ Starts cs := by
  intro starts
  obtain rfl := h.unique h' (not_blank_cons visible) starts.not_blank
  obtain ⟨_, _, ⟨⟩, other⟩ := starts
  exact other hx

mutual

/-- What a text says up to where a datum may end, and where this is. -/
theorem Value.unique {t r : List Char} {d : Datum} : Value t d r →
    ∀ {d' : Datum} {r' : List Char}, Value t d' r' → Ends r → Ends r' → d = d' ∧ r = r'
  | .null, d', r', h', _, _ => by
    have mark : some 'n' = d'.mark? := h'.mark.symm
    generalize hs : 'n' :: 'u' :: 'l' :: 'l' :: r = s at h'
    cases h' with
    | null => exact ⟨rfl, by simpa using hs⟩
    | _ => cases mark
  | .yes, d', r', h', _, _ => by
    have mark : some 't' = d'.mark? := h'.mark.symm
    generalize hs : 't' :: 'r' :: 'u' :: 'e' :: r = s at h'
    cases h' with
    | yes => exact ⟨rfl, by simpa using hs⟩
    | _ => cases mark
  | .no, d', r', h', _, _ => by
    have mark : some 'f' = d'.mark? := h'.mark.symm
    generalize hs : 'f' :: 'a' :: 'l' :: 's' :: 'e' :: r = s at h'
    cases h' with
    | no => exact ⟨rfl, by simpa using hs⟩
    | _ => cases mark
  | @Value.number literal _ first, d', r', h', ends, ends' => by
    have mark : none = d'.mark? := (h'.mark.trans first.starts_unmarked).symm
    generalize hs : literal ++ r = s at h'
    cases h' with
    | number second =>
      have same := first.eq_takeWhile ends
      rw [hs, ← second.eq_takeWhile ends'] at same
      subst same
      exact ⟨rfl, List.append_cancel_left hs⟩
    | _ => cases mark
  | .text (t := q) first, d', r', h', _, _ => by
    have mark : some '"' = d'.mark? := h'.mark.symm
    generalize hs : '"' :: q = s at h'
    cases h' with
    | text second =>
      cases hs
      obtain ⟨rfl, rfl⟩ := first.unique second
      exact ⟨rfl, rfl⟩
    | _ => cases mark
  | .emptyList (t := q) close, d', r', h', _, _ => by
    have mark : some '[' = d'.mark? := h'.mark.symm
    generalize hs : '[' :: q = s at h'
    cases h' with
    | emptyList close' =>
      cases hs
      exact ⟨rfl, (close.unique_cons close' (by decide) (by decide)).2⟩
    | list before first =>
      cases hs
      exact absurd first.starts (close.not_starts (by decide) (by decide) before)
    | _ => cases mark
  | .list (t := q) before first more, d', r', h', _, _ => by
    have mark : some '[' = d'.mark? := h'.mark.symm
    generalize hs : '[' :: q = s at h'
    cases h' with
    | emptyList close =>
      cases hs
      exact absurd first.starts (close.not_starts (by decide) (by decide) before)
    | list before' first' more' =>
      cases hs
      obtain rfl := before.unique before' first.starts.not_blank first'.starts.not_blank
      obtain ⟨rfl, rfl⟩ := Value.unique first first' more.ends more'.ends
      obtain ⟨rfl, rfl⟩ := MoreItems.unique more more'
      exact ⟨rfl, rfl⟩
    | _ => cases mark
  | .emptyObject (t := q) close, d', r', h', _, _ => by
    have mark : some '\x7b' = d'.mark? := h'.mark.symm
    generalize hs : '\x7b' :: q = s at h'
    cases h' with
    | emptyObject close' =>
      cases hs
      exact ⟨rfl, (close.unique_cons close' (by decide) (by decide)).2⟩
    | object before first =>
      cases hs
      exact absurd first.starts (close.not_starts (by decide) (by decide) before)
    | _ => cases mark
  | .object (t := q) before first more, d', r', h', _, _ => by
    have mark : some '\x7b' = d'.mark? := h'.mark.symm
    generalize hs : '\x7b' :: q = s at h'
    cases h' with
    | emptyObject close =>
      cases hs
      exact absurd first.starts (close.not_starts (by decide) (by decide) before)
    | object before' first' more' =>
      cases hs
      obtain rfl := before.unique before' first.starts.not_blank first'.starts.not_blank
      obtain ⟨rfl, rfl, rfl⟩ := Member.unique first first' more.ends more'.ends
      obtain ⟨rfl, rfl⟩ := MoreMembers.unique more more'
      exact ⟨rfl, rfl⟩
    | _ => cases mark
termination_by structural h => h

theorem MoreItems.unique {t r : List Char} {ds : List Datum} : MoreItems t ds r →
    ∀ {ds' : List Datum} {r' : List Char}, MoreItems t ds' r' → ds = ds' ∧ r = r'
  | .close close, _, _, .close close' =>
    ⟨rfl, (close.unique_cons close' (by decide) (by decide)).2⟩
  | .close close, _, _, .item before _ _ _ => by
    cases (close.unique_cons before (by decide) (by decide)).1
  | .item before _ _ _, _, _, .close close => by
    cases (close.unique_cons before (by decide) (by decide)).1
  | .item before after value more, _, _, .item before' after' value' more' => by
    obtain ⟨-, rfl⟩ := before.unique_cons before' (by decide) (by decide)
    obtain rfl := after.unique after' value.starts.not_blank value'.starts.not_blank
    obtain ⟨rfl, rfl⟩ := Value.unique value value' more.ends more'.ends
    obtain ⟨rfl, rfl⟩ := MoreItems.unique more more'
    exact ⟨rfl, rfl⟩
termination_by structural h => h

theorem Member.unique {t r : List Char} {k : String} {d : Datum} : Member t k d r →
    ∀ {k' : String} {d' : Datum} {r' : List Char}, Member t k' d' r' → Ends r → Ends r' →
      k = k' ∧ d = d' ∧ r = r'
  | .pair key before after value, _, _, _, .pair key' before' after' value', ends, ends' => by
    obtain ⟨rfl, rfl⟩ := key.unique key'
    obtain ⟨-, rfl⟩ := before.unique_cons before' (by decide) (by decide)
    obtain rfl := after.unique after' value.starts.not_blank value'.starts.not_blank
    exact ⟨rfl, Value.unique value value' ends ends'⟩
termination_by structural h => h

theorem MoreMembers.unique {t r : List Char} {ms : List (String × Datum)} : MoreMembers t ms r →
    ∀ {ms' : List (String × Datum)} {r' : List Char}, MoreMembers t ms' r' → ms = ms' ∧ r = r'
  | .close close, _, _, .close close' =>
    ⟨rfl, (close.unique_cons close' (by decide) (by decide)).2⟩
  | .close close, _, _, .member before _ _ _ => by
    cases (close.unique_cons before (by decide) (by decide)).1
  | .member before _ _ _, _, _, .close close => by
    cases (close.unique_cons before (by decide) (by decide)).1
  | .member before after member more, _, _, .member before' after' member' more' => by
    obtain ⟨-, rfl⟩ := before.unique_cons before' (by decide) (by decide)
    obtain rfl := after.unique after' member.starts.not_blank member'.starts.not_blank
    obtain ⟨rfl, rfl, rfl⟩ := Member.unique member member' more.ends more'.ends
    obtain ⟨rfl, rfl⟩ := MoreMembers.unique more more'
    exact ⟨rfl, rfl⟩
termination_by structural h => h

end

end Grammar

/-- A text is a document of one datum at most. -/
theorem IsDocument.unique {t : List Char} {d d' : Datum} (h : IsDocument t d)
    (h' : IsDocument t d') : d = d' := by
  obtain ⟨before, value, after⟩ := h
  obtain ⟨before', value', after'⟩ := h'
  obtain rfl := before.unique before' value.starts.not_blank value'.starts.not_blank
  exact (value.unique value' after.ends_nil after'.ends_nil).1

end GuestWatch.Json
