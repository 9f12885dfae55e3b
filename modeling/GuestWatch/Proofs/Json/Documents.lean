import GuestWatch.Proofs.Json.Values

/-! # Reading documents

Every datum that is not nested too deeply, and whose numbers are natural and fit, is read from every
text that says it by the grammar.
-/
namespace GuestWatch.Json

/-- The data that are read: not nested too deeply, and with numbers that are natural and fit. -/
inductive Datum.Readable : Nat → Datum → Prop
  | null {depth : Nat} : Readable depth .null
  | bool {depth : Nat} {b : Bool} : Readable depth (.bool b)
  | natural {depth n : Nat} (h : n ≤ Text.Decimal.max64) : Readable depth (.natural n)
  | text {depth : Nat} {s : String} : Readable depth (.text s)
  | list {depth : Nat} {ds : List Datum} (h : ∀ d ∈ ds, Readable depth d) :
    Readable (depth + 1) (.list ds)
  | object {depth : Nat} {ms : List (String × Datum)} (h : ∀ m ∈ ms, Readable depth m.2) :
    Readable (depth + 1) (.object ms)

namespace Cursor

variable {c : Cursor} {t s : List Char}

theorem skip_of_starts (h : ∀ x ∈ t.head?, x ∉ Grammar.blanks) (p : Place) :
    skip p t = ⟨p, t⟩ := by
  rcases t with _ | ⟨x, t⟩
  · rfl
  · have visible : ¬ isSpace x = true := by
      rw [isSpace_iff]
      exact h x rfl
    simp [skip, visible]

theorem skip_of_blanks (h : Grammar.Blanks t s) (hs : ∀ x ∈ s.head?, x ∉ Grammar.blanks)
    (p : Place) : (skip p t).rest = s := by
  induction h generalizing p with
  | done => rw [skip_of_starts hs]
  | blank hx _ ih =>
    rw [skip, if_pos (isSpace_iff.mpr hx)]
    exact ih hs _

theorem skipSpaces_of_blanks (h : Grammar.Blanks c.rest s)
    (hs : ∀ x ∈ s.head?, x ∉ Grammar.blanks) : c.skipSpaces.rest = s :=
  skip_of_blanks h hs c.place

theorem skipSpaces_cons {x : Char} (h : Grammar.Blanks c.rest (x :: s)) (hx : x ∉ Grammar.blanks) :
    c.skipSpaces.rest = x :: s := by
  apply skipSpaces_of_blanks h
  rintro y ⟨⟩
  exact hx

end Cursor

namespace Reader

variable {τ δ : Type} {held : τ → Option δ} {c : Cursor} {size fuel : Nat} {k : String}
variable {d : Datum} {ds : List Datum} {ms : List (String × Datum)} {t s r : List Char}

/-- A reading holds a datum, has no fault and leaves the rest of the text. -/
structure Holds (held : τ → Option δ) (result : τ × Option Fault × Cursor) (d : δ)
    (r : List Char) : Prop where
  holds : held result.1 = some d
  none : result.2.1 = none
  rest : result.2.2.rest = r

variable {read : Cursor → Tree × Option Fault × Cursor}

theorem leaf_holds {α : Type} {build : α → Place → Tree} {step : Step α} {a : α}
    (h : step.Gives a r) (hd : ∀ p, (build a p).datum? = some d) :
    Holds Tree.datum? (leaf build step) d r := by
  obtain ⟨after, rfl, rest⟩ := h
  exact ⟨hd _, rfl, rest⟩

theorem word_of_rest {ws : List Char} (h : c.rest = ws ++ r) : (word ws c).Gives () r := by
  induction ws generalizing c with
  | nil => simp [word, h]
  | cons w ws ih =>
    have next := Cursor.advance_rest h
    simp [word, h, ih next]

/-! ## Lists -/

theorem item_holds (first : Holds Tree.datum? (read c) d s)
    (more : ∀ c, c.rest = s → Holds Items.data? (items read false fuel c) ds r) :
    Holds Items.data? (items.item read fuel c) (d :: ds) r := by
  unfold items.item
  obtain ⟨hd, none, rest⟩ := first
  rcases hc : read c with ⟨t, fault, after⟩
  rw [hc] at hd none rest
  obtain ⟨hds, none', rest'⟩ := more after rest
  dsimp only at none
  subst none
  exact ⟨Items.data?_item.mpr ⟨d, ds, hd, hds, rfl⟩, none', rest'⟩

theorem items_close (first : Bool) (enough : 0 < fuel)
    (h : Grammar.Blanks c.rest (']' :: r)) :
    Holds Items.data? (items read first fuel c) [] r := by
  obtain ⟨n, rfl⟩ := Nat.exists_eq_add_one.mpr enough
  have hc := Cursor.skipSpaces_cons h (by decide)
  simp only [items, hc]
  exact ⟨rfl, rfl, Cursor.advance_rest hc⟩

theorem items_first (enough : 0 < fuel) (before : Grammar.Blanks c.rest t)
    (starts : Grammar.Starts t)
    (item : ∀ n c, fuel = n + 1 → c.rest = t → Holds Items.data? (items.item read n c) ds r) :
    Holds Items.data? (items read true fuel c) ds r := by
  obtain ⟨n, rfl⟩ := Nat.exists_eq_add_one.mpr enough
  have hc := Cursor.skipSpaces_of_blanks before starts.not_blank
  have here := item n c.skipSpaces rfl hc
  obtain ⟨x, s, rfl, hx⟩ := starts
  have close : x ≠ ']' := by
    rintro rfl
    exact hx (by decide)
  simpa [items, hc, close] using here

theorem items_more (enough : 0 < fuel) (before : Grammar.Blanks c.rest (',' :: s))
    (after : Grammar.Blanks s t)
    (starts : Grammar.Starts t)
    (item : ∀ n c, fuel = n + 1 → c.rest = t → Holds Items.data? (items.item read n c) ds r) :
    Holds Items.data? (items read false fuel c) ds r := by
  obtain ⟨n, rfl⟩ := Nat.exists_eq_add_one.mpr enough
  have comma := Cursor.skipSpaces_cons before (by decide)
  have hs := Cursor.advance_rest comma
  rw [← hs] at after
  have hc := Cursor.skipSpaces_of_blanks after starts.not_blank
  have here := item n _ rfl hc
  obtain ⟨x, s, rfl, hx⟩ := starts
  have close : x ≠ ']' := by
    rintro rfl
    exact hx (by decide)
  simpa [items, comma, hc, close] using here

/-! ## Objects -/

theorem key_holds (key : Grammar.Quoted t k.toList s) (short : t.length < size)
    (hc : c.rest = '"' :: t) {s₁ : List Char} (before : Grammar.Blanks s (':' :: s₁))
    (first : ∀ c, c.rest = s₁ → ∃ s₂, Holds Tree.datum? (read c) d s₂ ∧
      ∀ c, c.rest = s₂ → Holds Members.data? (members size read false fuel c) ms r) :
    Holds Members.data? (members.key size read fuel c) ((k, d) :: ms) r := by
  have ht := Cursor.advance_rest hc
  rw [← ht] at key short
  obtain ⟨c₁, hk, rest⟩ := string_of_quoted key short
  rw [← rest] at before
  have colon := Cursor.skipSpaces_cons before (by decide)
  obtain ⟨s₂, ⟨hd, none, rest₂⟩, more⟩ := first _ (Cursor.advance_rest colon)
  rcases hv : read c₁.skipSpaces.advance with ⟨v, fault, c₂⟩
  rw [hv] at hd none rest₂
  obtain ⟨hms, none', rest₃⟩ := more c₂ rest₂
  dsimp only at none
  subst none
  simp only [members.key, hc, hk, colon, hv]
  exact ⟨Members.data?_member.mpr ⟨d, ms, hd, hms, rfl⟩, none', rest₃⟩

theorem members_close (first : Bool) (enough : 0 < fuel) (h : Grammar.Blanks c.rest ('\x7d' :: r)) :
    Holds Members.data? (members size read first fuel c) [] r := by
  obtain ⟨n, rfl⟩ := Nat.exists_eq_add_one.mpr enough
  have hc := Cursor.skipSpaces_cons h (by decide)
  simp only [members, hc]
  exact ⟨rfl, rfl, Cursor.advance_rest hc⟩

theorem members_first (enough : 0 < fuel) (before : Grammar.Blanks c.rest t)
    (starts : Grammar.Starts t)
    (key : ∀ n c, fuel = n + 1 → c.rest = t →
      Holds Members.data? (members.key size read n c) ms r) :
    Holds Members.data? (members size read true fuel c) ms r := by
  obtain ⟨n, rfl⟩ := Nat.exists_eq_add_one.mpr enough
  have hc := Cursor.skipSpaces_of_blanks before starts.not_blank
  have here := key n c.skipSpaces rfl hc
  obtain ⟨x, s, rfl, hx⟩ := starts
  have close : x ≠ '\x7d' := by
    rintro rfl
    exact hx (by decide)
  simpa [members, hc, close] using here

theorem members_more (enough : 0 < fuel) (before : Grammar.Blanks c.rest (',' :: s))
    (after : Grammar.Blanks s t)
    (starts : Grammar.Starts t)
    (key : ∀ n c, fuel = n + 1 → c.rest = t →
      Holds Members.data? (members.key size read n c) ms r) :
    Holds Members.data? (members size read false fuel c) ms r := by
  obtain ⟨n, rfl⟩ := Nat.exists_eq_add_one.mpr enough
  have comma := Cursor.skipSpaces_cons before (by decide)
  have hs := Cursor.advance_rest comma
  rw [← hs] at after
  have hc := Cursor.skipSpaces_of_blanks after starts.not_blank
  have here := key n _ rfl hc
  obtain ⟨x, s, rfl, hx⟩ := starts
  have close : x ≠ '\x7d' := by
    rintro rfl
    exact hx (by decide)
  simpa [members, comma, hc, close] using here

/-! ## Values -/

theorem value_natural {n depth : Nat} (h : n ≤ Text.Decimal.max64) (ends : Grammar.Ends r)
    (hc : c.skipSpaces.rest = Text.Decimal.digits n ++ r) :
    Holds Tree.datum? (Reader.value size depth c) (.natural n) r := by
  have number : Holds Tree.datum? (leaf .number (number c.skipSpaces)) (.natural n) r :=
    leaf_holds (number_of_digits hc h ends) fun _ => rfl
  have numeral := Text.Decimal.digits_digits n
  obtain ⟨x, cs, first⟩ := List.exists_cons_of_ne_nil numeral.nonempty
  have digit := numeral.digits x (by simp [first])
  have value : digit? x = some (x.toNat - '0'.toNat) :=
    Text.Decimal.digitValue?_eq_some.mpr ⟨digit, rfl⟩
  -- No other kind of value starts with a digit.
  have others : x ∉ ['"', 'n', 't', 'f', '[', '\x7b'] := by
    have none : ['"', 'n', 't', 'f', '[', '\x7b'].all (fun y => !y.isDigit) = true := by decide
    intro hx
    simpa [digit] using List.all_eq_true.mp none x hx
  simp only [List.mem_cons, List.not_mem_nil, or_false, not_or] at others
  rw [first] at hc
  unfold Reader.value
  simpa [hc, others, value] using number

theorem value_list {depth : Nat} (hc : c.skipSpaces.rest = '[' :: t)
    (inside : ∀ c, c.rest = t →
      Holds Items.data? (items (Reader.value size depth) true size c) ds r) :
    Holds Tree.datum? (Reader.value size (depth + 1) c) (.list ds) r := by
  obtain ⟨hds, none, rest⟩ := inside _ (Cursor.advance_rest hc)
  unfold Reader.value
  simp only [hc]
  exact ⟨by simp [Tree.datum?, hds], none, rest⟩

theorem value_object {depth : Nat} (hc : c.skipSpaces.rest = '\x7b' :: t)
    (inside : ∀ c, c.rest = t →
      Holds Members.data? (members size (Reader.value size depth) true size c) ms r) :
    Holds Tree.datum? (Reader.value size (depth + 1) c) (.object ms) r := by
  obtain ⟨hms, none, rest⟩ := inside _ (Cursor.advance_rest hc)
  unfold Reader.value
  simp only [hc]
  exact ⟨by simp [Tree.datum?, hms], none, rest⟩

mutual

theorem value_holds {t r : List Char} {d : Datum} : Grammar.Value t d r →
    ∀ {depth : Nat} {c : Cursor}, d.Readable depth → t.length < size → Grammar.Ends r →
      c.skipSpaces.rest = t → Holds Tree.datum? (Reader.value size depth c) d r
  | .null, _, _, _, _, _, hc => by
    unfold Reader.value
    simp only [hc]
    exact leaf_holds (word_of_rest (Cursor.advance_rest hc)) fun _ => rfl
  | .yes, _, _, _, _, _, hc => by
    unfold Reader.value
    simp only [hc]
    exact leaf_holds (word_of_rest (Cursor.advance_rest hc)) fun _ => rfl
  | .no, _, _, _, _, _, hc => by
    unfold Reader.value
    simp only [hc]
    exact leaf_holds (word_of_rest (Cursor.advance_rest hc)) fun _ => rfl
  | .number _, _, _, .natural bound, _, ends, hc => value_natural bound ends hc
  | .text h, _, _, _, short, _, hc => by
    have next := Cursor.advance_rest hc
    rw [← next] at h
    unfold Reader.value
    simp only [hc]
    apply leaf_holds (string_of_quoted h _) fun _ => rfl
    rw [next]
    exact Nat.lt_of_succ_lt short
  | .emptyList h, _, _, .list _, short, _, hc => by
    apply value_list hc
    rintro c rfl
    exact items_close true (Nat.zero_lt_of_lt short) h
  | .list before first more, _, _, .list readable, short, _, hc => by
    have one := first.length_lt
    have blank := before.length_le
    rw [List.length_cons] at short
    rw [List.forall_mem_cons] at readable
    apply value_list hc
    rintro c rfl
    apply items_first (Nat.zero_lt_of_lt short) before first.starts
    intro n c hn hc
    apply item_holds
    · apply value_holds first readable.1 (by omega) more.ends
      rw [← hc]
      exact Cursor.skipSpaces_of_blanks .done (hc ▸ first.starts.not_blank)
    · intro c hc
      exact items_holds more readable.2 (by omega) (by omega) hc
  | .emptyObject h, _, _, .object _, short, _, hc => by
    apply value_object hc
    rintro c rfl
    exact members_close true (Nat.zero_lt_of_lt short) h
  | .object before first more, _, _, .object readable, short, _, hc => by
    have one := first.length_lt
    have blank := before.length_le
    rw [List.length_cons] at short
    rw [List.forall_mem_cons] at readable
    apply value_object hc
    rintro c rfl
    apply members_first (Nat.zero_lt_of_lt short) before first.starts
    intro n c hn hc
    apply member_holds first readable.1 (by omega) more.ends hc
    intro c hc
    exact members_holds more readable.2 (by omega) (by omega) hc

theorem items_holds {t r : List Char} {ds : List Datum} : Grammar.MoreItems t ds r →
    ∀ {depth fuel : Nat} {c : Cursor}, (∀ d ∈ ds, d.Readable depth) → t.length < size →
      t.length < fuel → c.rest = t →
      Holds Items.data? (items (Reader.value size depth) false fuel c) ds r
  | .close h, _, _, _, _, _, enough, hc => by
    rw [← hc] at h
    exact items_close false (Nat.zero_lt_of_lt enough) h
  | .item before after value more, _, _, _, readable, short, enough, hc => by
    have one := value.length_lt
    have comma := before.length_le
    have blank := after.length_le
    rw [List.length_cons] at comma
    rw [List.forall_mem_cons] at readable
    rw [← hc] at before
    apply items_more (Nat.zero_lt_of_lt enough) before after value.starts
    intro n c hn hc
    apply item_holds
    · apply value_holds value readable.1 (by omega) more.ends
      rw [← hc]
      exact Cursor.skipSpaces_of_blanks .done (hc ▸ value.starts.not_blank)
    · intro c hc
      exact items_holds more readable.2 (by omega) (by omega) hc

theorem member_holds {t r s : List Char} {k : String} {d : Datum} : Grammar.Member t k d s →
    ∀ {depth fuel : Nat} {ms : List (String × Datum)} {c : Cursor}, d.Readable depth →
      t.length < size → Grammar.Ends s → c.rest = t →
      (∀ c, c.rest = s →
        Holds Members.data? (members size (Reader.value size depth) false fuel c) ms r) →
      Holds Members.data? (members.key size (Reader.value size depth) fuel c) ((k, d) :: ms) r
  | .pair key before after value, _, _, _, _, readable, short, ends, hc, more => by
    have quoted := key.length_lt
    have colon := before.length_le
    have blank := after.length_le
    rw [List.length_cons] at short colon
    apply key_holds key (by omega) hc before
    rintro c rfl
    refine ⟨s, ?_, more⟩
    apply value_holds value readable (by omega) ends
    exact Cursor.skipSpaces_of_blanks after value.starts.not_blank

theorem members_holds {t r : List Char} {ms : List (String × Datum)} : Grammar.MoreMembers t ms r →
    ∀ {depth fuel : Nat} {c : Cursor}, (∀ m ∈ ms, m.2.Readable depth) → t.length < size →
      t.length < fuel → c.rest = t →
      Holds Members.data? (members size (Reader.value size depth) false fuel c) ms r
  | .close h, _, _, _, _, _, enough, hc => by
    rw [← hc] at h
    exact members_close false (Nat.zero_lt_of_lt enough) h
  | .member before after member more, _, _, _, readable, short, enough, hc => by
    have one := member.length_lt
    have comma := before.length_le
    have blank := after.length_le
    rw [List.length_cons] at comma
    rw [List.forall_mem_cons] at readable
    rw [← hc] at before
    apply members_more (Nat.zero_lt_of_lt enough) before after member.starts
    intro n c hn hc
    apply member_holds member readable.1 (by omega) more.ends hc
    intro c hc
    exact members_holds more readable.2 (by omega) (by omega) hc

end

end Reader

/-! ## Documents -/

namespace Document

variable {text : String} {d : Datum}

/-- A text is a document that says a readable datum exactly if reading it finds this datum and
nothing else. -/
theorem isDocument_iff (h : d.Readable Reader.maxDepth) : IsDocument text.toList d ↔
    (ofText text).tree.datum? = some d ∧ (ofText text).ending = none := by
  have start : (Cursor.ofText text).rest = text.toList := rfl
  rcases hv : Reader.value (text.toList.length + 1) Reader.maxDepth (.ofText text) with
    ⟨tree, fault, after⟩
  constructor
  · rintro ⟨before, value, blanks⟩
    have short := before.length_le
    rw [← start] at before
    obtain ⟨hd, none, rest⟩ := Reader.value_holds value h (Nat.lt_succ_of_le short)
      blanks.ends_nil (Cursor.skipSpaces_of_blanks before value.starts.not_blank)
    rw [hv] at hd none rest
    dsimp only at none
    rw [← rest] at blanks
    have spent : after.skipSpaces.rest = [] := Cursor.skipSpaces_of_blanks blanks (by simp)
    simp only [ofText, start, hv, none, spent, List.isEmpty_nil, if_true]
    exact ⟨hd, trivial⟩
  · rintro ⟨hd, none⟩
    have sound := Reader.value_sound (text.toList.length + 1) Reader.maxDepth (.ofText text)
    rw [hv] at sound
    have same : (ofText text).tree = tree := by
      simp only [ofText, start, hv]
      split
      · rfl
      · split <;> rfl
    rw [same] at hd
    obtain ⟨well, value⟩ := sound d hd
    dsimp only at well
    have spent : after.skipSpaces.rest = [] := by
      simp only [ofText, start, hv, well] at none
      split at none
      · next h => exact List.isEmpty_iff.mp h
      · cases none
    have blanks := after.blanks_skipSpaces
    rw [spent] at blanks
    exact .value (Cursor.blanks_skipSpaces (.ofText text)) value blanks

end Document

end GuestWatch.Json
