import GuestWatch.Proofs.Json.Numbers

/-! # Reading values

A tree without faults whose numbers are natural holds a datum. Where the reader of values makes such
a tree, the text says by the grammar what the tree holds.
-/
namespace GuestWatch.Json

/-! ## What a tree holds -/

mutual

/-- What a tree holds, if it has no fault and all its numbers are natural. -/
def Tree.datum? : Tree → Option Datum
  | .fault _ => none
  | .null _ => some .null
  | .bool b _ => some (.bool b)
  | .number (.natural n) _ => some (.natural n)
  | .number _ _ => none
  | .text s _ => some (.text s)
  | .list _ items => items.data?.map .list
  | .object _ members => members.data?.map .object

def Items.data? : Items → Option (List Datum)
  | .close => some []
  | .fault _ => none
  | .item _ t rest => t.datum?.bind fun d => rest.data?.map (d :: ·)

def Members.data? : Members → Option (List (String × Datum))
  | .close => some []
  | .fault _ => none
  | .member k _ t rest => t.datum?.bind fun d => rest.data?.map ((k, d) :: ·)

end

theorem Items.data?_item {p : Place} {t : Tree} {rest : Items} {ds : List Datum} :
    (Items.item p t rest).data? = some ds ↔
      ∃ d more, t.datum? = some d ∧ rest.data? = some more ∧ ds = d :: more := by
  simp only [Items.data?, Option.bind_eq_some_iff, Option.map_eq_some_iff]
  constructor
  · rintro ⟨d, hd, more, hm, rfl⟩
    exact ⟨d, more, hd, hm, rfl⟩
  · rintro ⟨d, more, hd, hm, rfl⟩
    exact ⟨d, hd, more, hm, rfl⟩

theorem Members.data?_member {k : String} {p : Place} {t : Tree} {rest : Members}
    {ms : List (String × Datum)} : (Members.member k p t rest).data? = some ms ↔
      ∃ d more, t.datum? = some d ∧ rest.data? = some more ∧ ms = (k, d) :: more := by
  simp only [Members.data?, Option.bind_eq_some_iff, Option.map_eq_some_iff]
  constructor
  · rintro ⟨d, hd, more, hm, rfl⟩
    exact ⟨d, more, hd, hm, rfl⟩
  · rintro ⟨d, more, hd, hm, rfl⟩
    exact ⟨d, hd, more, hm, rfl⟩

namespace Tree

variable {t : Tree}

theorem datum?_eq_null : t.datum? = some .null ↔ ∃ p, t = .null p := by
  fun_cases datum? t <;> simp [Datum.natural]

theorem datum?_eq_bool {b : Bool} : t.datum? = some (.bool b) ↔ ∃ p, t = .bool b p := by
  fun_cases datum? t <;> simp [Datum.natural]

theorem datum?_eq_natural {n : Nat} :
    t.datum? = some (.natural n) ↔ ∃ p, t = .number (.natural n) p := by
  fun_cases datum? t <;> simp_all [Datum.natural]
  exact ⟨Text.Decimal.eq_of_digits_eq, congrArg _⟩

theorem datum?_eq_text {s : String} : t.datum? = some (.text s) ↔ ∃ p, t = .text s p := by
  fun_cases datum? t <;> simp [Datum.natural]

theorem datum?_eq_list {ds : List Datum} : t.datum? = some (.list ds) ↔
    ∃ p items, t = .list p items ∧ items.data? = some ds := by
  fun_cases datum? t <;> simp [Datum.natural, and_assoc]

theorem datum?_eq_object {ms : List (String × Datum)} : t.datum? = some (.object ms) ↔
    ∃ p members, t = .object p members ∧ members.data? = some ms := by
  fun_cases datum? t <;> simp [Datum.natural, and_assoc]

end Tree

/-! ## Blanks -/

namespace Cursor

variable {c : Cursor} {t : List Char}

theorem advance_rest {x : Char} (h : c.rest = x :: t) : c.advance.rest = t := by
  simp [advance, h]

theorem isSpace_iff {x : Char} : isSpace x = true ↔ x ∈ Grammar.blanks := by
  simp [isSpace, Grammar.blanks, or_assoc]

theorem blanks_skipSpaces (c : Cursor) : Grammar.Blanks c.rest c.skipSpaces.rest := by
  have skipped (p : Place) (t : List Char) : Grammar.Blanks t (skip p t).rest := by
    induction t generalizing p with
    | nil => exact .done
    | cons x t ih =>
      unfold skip
      split
      · next h => exact .blank (isSpace_iff.mp h) (ih _)
      · exact .done
  exact skipped c.place c.rest

end Cursor

namespace Reader

variable {τ δ : Type} {held : τ → Option δ} {stated : δ → List Char → Prop}
variable {result : τ × Option Fault × Cursor} {c : Cursor} {size : Nat}

/-! ## What is read is there -/

/-- Where a reading holds something it has no fault, and the text says what it holds. -/
def Faithful (held : τ → Option δ) (stated : δ → List Char → Prop)
    (result : τ × Option Fault × Cursor) : Prop :=
  ∀ d, held result.1 = some d → result.2.1 = none ∧ stated d result.2.2.rest

theorem faithful_of_none (h : held result.1 = none) : Faithful held stated result := by
  intro d hd
  rw [h] at hd
  cases hd

theorem Faithful.mono {also : δ → List Char → Prop} (h : Faithful held stated result)
    (more : ∀ d r, stated d r → also d r) : Faithful held also result := by
  intro d hd
  obtain ⟨none, said⟩ := h d hd
  exact ⟨none, more d _ said⟩

/-- A reader of values is faithful to the grammar, wherever it starts. -/
def Sound (value : Cursor → Tree × Option Fault × Cursor) : Prop :=
  ∀ c, Faithful Tree.datum? (Grammar.Value c.skipSpaces.rest) (value c)

variable {read : Cursor → Tree × Option Fault × Cursor} {fuel : Nat}

/-- The text has a value and after it the rest of a list. -/
def ItemThenMore (t : List Char) (ds : List Datum) (r : List Char) : Prop :=
  ∃ d more s, ds = d :: more ∧ Grammar.Value t d s ∧ Grammar.MoreItems s more r

theorem item_faithful (hv : Sound read)
    (rest : ∀ c, Faithful Items.data? (Grammar.MoreItems c.rest) (items read false fuel c)) :
    Faithful Items.data? (ItemThenMore c.skipSpaces.rest) (items.item read fuel c) := by
  unfold items.item
  have first := hv c
  rcases hc : read c with ⟨t, _ | f, after⟩
  · rw [hc] at first
    intro ds h
    obtain ⟨d, more, hd, hm, rfl⟩ := Items.data?_item.mp h
    obtain ⟨none, items⟩ := rest after more hm
    exact ⟨none, d, more, after.rest, rfl, (first d hd).2, items⟩
  · apply faithful_of_none
    simp [Items.data?]

theorem items_faithful (hv : Sound read) (fuel : Nat) (c : Cursor) :
    Faithful Items.data? (Grammar.MoreItems c.rest) (items read false fuel c) := by
  induction fuel generalizing c with
  | zero =>
    apply faithful_of_none
    simp [items, Items.data?]
  | succ fuel ih =>
    have before := c.blanks_skipSpaces
    unfold items
    dsimp only
    split
    · exact faithful_of_none rfl
    · next t hc =>
      rintro ds ⟨⟩
      rw [hc] at before
      refine ⟨rfl, .close ?_⟩
      rwa [Cursor.advance_rest hc]
    · next x t close hc =>
      rw [if_neg (by decide)]
      split
      · next comma =>
        rw [hc, comma] at before
        have after := c.skipSpaces.advance.blanks_skipSpaces
        rw [Cursor.advance_rest hc] at after
        split
        · exact faithful_of_none rfl
        · exact faithful_of_none rfl
        · apply (item_faithful hv ih).mono
          rintro ds r ⟨d, more, s, rfl, value, items⟩
          exact .item before (after.trans (Cursor.blanks_skipSpaces _)) value items
      · exact faithful_of_none rfl

theorem list_faithful (hv : Sound read) (fuel : Nat) {t : List Char} (hc : c.rest = t) :
    Faithful Items.data? (fun ds => Grammar.Value ('[' :: t) (.list ds))
      (items read true fuel c) := by
  subst hc
  rcases fuel with _ | fuel
  · apply faithful_of_none
    simp [items, Items.data?]
  · have before := c.blanks_skipSpaces
    unfold items
    dsimp only
    split
    · exact faithful_of_none rfl
    · next t hc =>
      rintro ds ⟨⟩
      rw [hc] at before
      refine ⟨rfl, .emptyList ?_⟩
      rwa [Cursor.advance_rest hc]
    · rw [if_pos rfl]
      apply (item_faithful hv (items_faithful hv fuel)).mono
      rintro ds r ⟨d, more, s, rfl, value, items⟩
      exact .list (before.trans (Cursor.blanks_skipSpaces _)) value items

/-- The text has a member and after it the rest of an object. -/
def MemberThenMore (t : List Char) (ms : List (String × Datum)) (r : List Char) : Prop :=
  ∃ k d more s, ms = (k, d) :: more ∧ Grammar.Member t k d s ∧ Grammar.MoreMembers s more r

theorem key_faithful (hv : Sound read)
    (rest : ∀ c, Faithful Members.data? (Grammar.MoreMembers c.rest)
      (members size read false fuel c)) :
    Faithful Members.data? (MemberThenMore c.rest) (members.key size read fuel c) := by
  unfold members.key
  split
  · next t hc =>
    rw [hc]
    split
    · exact faithful_of_none rfl
    · next k c₁ hk =>
      have quoted := quoted_of_string ⟨c₁, hk, rfl⟩
      rw [Cursor.advance_rest hc] at quoted
      have before := c₁.blanks_skipSpaces
      dsimp only
      split
      · next s colon =>
        rw [colon] at before
        have after := c₁.skipSpaces.advance.blanks_skipSpaces
        rw [Cursor.advance_rest colon] at after
        have first := hv c₁.skipSpaces.advance
        rcases hd : read c₁.skipSpaces.advance with ⟨v, _ | f, c₂⟩
        · rw [hd] at first
          intro ms h
          obtain ⟨d, more, hd, hm, rfl⟩ := Members.data?_member.mp h
          obtain ⟨none, members⟩ := rest c₂ more hm
          exact ⟨none, k, d, more, c₂.rest, rfl, .pair quoted before after (first d hd).2, members⟩
        · apply faithful_of_none
          simp [Members.data?]
      · apply faithful_of_none
        simp [Members.data?]
      · apply faithful_of_none
        simp [Members.data?]
  · exact faithful_of_none rfl

theorem members_faithful (hv : Sound read) (fuel : Nat) (c : Cursor) :
    Faithful Members.data? (Grammar.MoreMembers c.rest) (members size read false fuel c) := by
  induction fuel generalizing c with
  | zero =>
    apply faithful_of_none
    simp [members, Members.data?]
  | succ fuel ih =>
    have before := c.blanks_skipSpaces
    unfold members
    dsimp only
    split
    · exact faithful_of_none rfl
    · next t hc =>
      rintro ms ⟨⟩
      rw [hc] at before
      refine ⟨rfl, .close ?_⟩
      rwa [Cursor.advance_rest hc]
    · next x t close hc =>
      rw [if_neg (by decide)]
      split
      · next comma =>
        rw [hc, comma] at before
        have after := c.skipSpaces.advance.blanks_skipSpaces
        rw [Cursor.advance_rest hc] at after
        split
        · exact faithful_of_none rfl
        · exact faithful_of_none rfl
        · apply (key_faithful hv ih).mono
          rintro ms r ⟨k, d, more, s, rfl, member, members⟩
          exact .member before after member members
      · exact faithful_of_none rfl

theorem object_faithful (hv : Sound read) (fuel : Nat) {t : List Char} (hc : c.rest = t) :
    Faithful Members.data? (fun ms => Grammar.Value ('\x7b' :: t) (.object ms))
      (members size read true fuel c) := by
  subst hc
  rcases fuel with _ | fuel
  · apply faithful_of_none
    simp [members, Members.data?]
  · have before := c.blanks_skipSpaces
    unfold members
    dsimp only
    split
    · exact faithful_of_none rfl
    · next t hc =>
      rintro ms ⟨⟩
      rw [hc] at before
      refine ⟨rfl, .emptyObject ?_⟩
      rwa [Cursor.advance_rest hc]
    · rw [if_pos rfl]
      apply (key_faithful hv (members_faithful hv fuel)).mono
      rintro ms r ⟨k, d, more, s, rfl, member, members⟩
      exact .object before member members

theorem leaf_faithful {α : Type} {build : α → Place → Tree} {step : Step α}
    {stated : Datum → List Char → Prop}
    (h : ∀ a r p d, step.Gives a r → (build a p).datum? = some d → stated d r) :
    Faithful Tree.datum? stated (leaf build step) := by
  rcases hs : step with f | ⟨a, c⟩
  · exact faithful_of_none rfl
  · intro d hd
    exact ⟨rfl, h a c.rest c.place d ⟨c, hs, rfl⟩ hd⟩

theorem word_gives {ws r : List Char} (h : (word ws c).Gives () r) : c.rest = ws ++ r := by
  induction ws generalizing c with
  | nil =>
    rw [word, gives_ok] at h
    exact h.2
  | cons w ws ih =>
    unfold word at h
    split at h
    · simp at h
    · next x t hc =>
      split at h
      · next same =>
        have := ih h
        rw [Cursor.advance_rest hc] at this
        rw [hc, same, this]
        rfl
      · simp at h

theorem word_faithful {ws t : List Char} {tree : Place → Tree} {d : Datum}
    {stated : Datum → List Char → Prop} (hd : ∀ p, (tree p).datum? = some d) (hc : c.rest = t)
    (said : ∀ r, t = ws ++ r → stated d r) :
    Faithful Tree.datum? stated (leaf (fun _ => tree) (word ws c)) := by
  apply leaf_faithful
  intro _ r p d' h hd'
  obtain rfl : d = d' := by simpa [hd p] using hd'
  exact said r (hc ▸ word_gives h)

/-- Values are read as the grammar has them. -/
theorem value_sound (size depth : Nat) : Sound (Reader.value size depth) := by
  induction depth using Nat.strongRecOn with
  | ind depth ih =>
    intro c
    unfold Reader.value
    dsimp only
    split
    · exact faithful_of_none rfl
    · next t hc =>
      rw [hc]
      apply leaf_faithful
      rintro s r p d h ⟨⟩
      have quoted := quoted_of_string h
      rw [Cursor.advance_rest hc] at quoted
      exact .text quoted
    · next t hc =>
      rw [hc]
      apply word_faithful (fun _ => rfl) (Cursor.advance_rest hc)
      rintro r rfl
      exact .null
    · next t hc =>
      rw [hc]
      apply word_faithful (fun _ => rfl) (Cursor.advance_rest hc)
      rintro r rfl
      exact .yes
    · next t hc =>
      rw [hc]
      apply word_faithful (fun _ => rfl) (Cursor.advance_rest hc)
      rintro r rfl
      exact .no
    · next t hc =>
      rw [hc]
      split
      · exact faithful_of_none rfl
      · next depth =>
        intro d hd
        obtain ⟨ds, inside, rfl⟩ := Option.map_eq_some_iff.mp hd
        exact list_faithful (ih depth (Nat.lt_succ_self depth)) size (Cursor.advance_rest hc)
          ds inside
    · next t hc =>
      rw [hc]
      split
      · exact faithful_of_none rfl
      · next depth =>
        intro d hd
        obtain ⟨ms, inside, rfl⟩ := Option.map_eq_some_iff.mp hd
        exact object_faithful (ih depth (Nat.lt_succ_self depth)) size (Cursor.advance_rest hc)
          ms inside
    · next hc =>
      split
      · apply leaf_faithful
        intro n r p d h hd
        rcases n with n | z | x
        · cases hd
          rw [digits_of_number h]
          exact .number (Grammar.number_digits n)
        · cases hd
        · cases hd
      · exact faithful_of_none rfl

end Reader

end GuestWatch.Json
