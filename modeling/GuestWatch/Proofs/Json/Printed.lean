import GuestWatch.Json.Printer
import GuestWatch.Proofs.Json.Scalars

/-! # What is printed

The text of a value whose numbers are natural says, by the grammar, the datum of the value, in every
layout.
-/
namespace GuestWatch.Json

mutual

/-- The value has this datum. -/
inductive Value.Means : Value → Datum → Prop
  | null : Means .null .null
  | bool {b : Bool} : Means (.bool b) (.bool b)
  | natural {n : Nat} : Means (.natural n) (.natural n)
  | text {s : String} : Means (.text s) (.text s)
  | list {items : List Value} {ds : List Datum} (h : MeansItems items ds) :
    Means (.list items) (.list ds)
  | object {members : List (String × Value)} {ms : List (String × Datum)}
    (h : MeansMembers members ms) : Means (.object members) (.object ms)

inductive Value.MeansItems : List Value → List Datum → Prop
  | nil : MeansItems [] []
  | cons {v : Value} {d : Datum} {items : List Value} {ds : List Datum} (first : v.Means d)
    (more : MeansItems items ds) : MeansItems (v :: items) (d :: ds)

inductive Value.MeansMembers : List (String × Value) → List (String × Datum) → Prop
  | nil : MeansMembers [] []
  | cons {k : String} {v : Value} {d : Datum} {members : List (String × Value)}
    {ms : List (String × Datum)} (first : v.Means d) (more : MeansMembers members ms) :
    MeansMembers ((k, v) :: members) ((k, d) :: ms)

end

/-! ## Strings -/

variable {c : Char} {r : List Char}

/-- The last two of the four digits of a control character. -/
theorem fourDigits_control (h : c.toNat < 0x20) : Grammar.FourDigits
    ('0' :: '0' :: hexDigit (c.toNat / 16) :: hexDigit (c.toNat % 16) :: r) c.toNat r := by
  have zero : Unicode.CharSet.hexDigit '0' = some 0 := by decide
  have digit : ∀ d < 16, Unicode.CharSet.hexDigit (hexDigit d) = some d := by decide
  have parts := @Grammar.FourDigits.digits '0' '0' (hexDigit (c.toNat / 16))
    (hexDigit (c.toNat % 16)) 0 0 (c.toNat / 16) (c.toNat % 16) r zero zero
    (digit _ (by omega)) (digit _ (by omega))
  have value : ((0 * 16 + 0) * 16 + c.toNat / 16) * 16 + c.toNat % 16 = c.toNat := by omega
  rwa [value] at parts

theorem controlLetter?_mem {l : Char} (h : controlLetter? c = some l) :
    (l, c) ∈ Grammar.letters := by
  unfold controlLetter? at h
  split at h <;> cases h <;> decide

theorem character_escape (c : Char) (r : List Char) : Grammar.Character (escape c ++ r) c r := by
  unfold escape
  split
  · next special =>
    apply Grammar.Character.letter
    rcases special with rfl | rfl <;> decide
  · next ordinary =>
    rw [not_or] at ordinary
    split
    · next l h => exact .letter (controlLetter?_mem h)
    · split
      · next control => exact .code (fourDigits_control control)
      · next visible => exact .plain (Nat.le_of_not_lt visible) ordinary.1 ordinary.2

theorem quoted_escape (cs r : List Char) :
    Grammar.Quoted (cs.flatMap escape ++ '"' :: r) cs r := by
  induction cs with
  | nil => exact .close
  | cons c cs ih =>
    rw [List.flatMap_cons, List.append_assoc]
    exact .character (character_escape c _) ih

/-! ## Layouts -/

namespace Value

variable {v : Value} {d : Datum} {items : List Value} {ds : List Datum}
variable {members : List (String × Value)} {ms : List (String × Datum)}

theorem Layout.blanks_lineStart (layout : Layout) (r : List Char) :
    Grammar.Blanks (layout.lineStart ++ r) r := by
  cases layout with
  | compact => exact .done
  | pretty depth =>
    apply Grammar.Blanks.blank (by decide)
    induction 2 * depth with
    | zero => exact .done
    | succ n ih => exact .blank (by decide) ih

theorem Layout.blanks_colon (layout : Layout) (r : List Char) :
    ∃ t, layout.colon ++ r = ':' :: t ∧ Grammar.Blanks t r := by
  cases layout with
  | compact => exact ⟨r, rfl, .done⟩
  | pretty depth => exact ⟨' ' :: r, rfl, .blank (by decide) .done⟩

theorem member_chars {t : List Char} (layout : Layout) (k : String) (value : Grammar.Value t d r) :
    Grammar.Member (quoteChars k ++ (layout.colon ++ t)) k d r := by
  obtain ⟨s, colon, blanks⟩ := layout.blanks_colon t
  have key := quoted_escape k.toList (layout.colon ++ t)
  rw [colon] at key ⊢
  simp only [quoteChars, List.cons_append, List.append_assoc, List.nil_append]
  exact .pair key .done blanks value

mutual

/-- In every layout the text of a value says its datum. -/
theorem Means.chars {v : Value} {d : Datum} : v.Means d →
    ∀ (layout : Layout) (r : List Char), Grammar.Value (v.chars layout ++ r) d r
  | .null, _, _ => .null
  | @Means.bool true, _, _ => .yes
  | @Means.bool false, _, _ => .no
  | @Means.natural n, layout, r => by
    simp only [natural, Value.chars, Number.text, Text.Decimal.text, String.toList_ofList]
    exact .number (Grammar.number_digits n)
  | @Means.text s, layout, r => by
    simp only [Value.chars, quoteChars, List.cons_append, List.append_assoc, List.nil_append]
    exact .text (quoted_escape s.toList r)
  | .list .nil, _, r => .emptyList .done
  | .list (.cons first more), layout, r => by
    simp only [Value.chars, List.cons_append, List.append_assoc]
    exact .list (layout.inner.blanks_lineStart _) (first.chars layout.inner _) (more.chars layout r)
  | .object .nil, _, r => .emptyObject .done
  | .object (.cons first more), layout, r => by
    simp only [Value.chars, List.cons_append, List.append_assoc]
    exact .object (layout.inner.blanks_lineStart _)
      (member_chars layout _ (first.chars layout.inner _)) (more.chars layout r)

theorem MeansItems.chars {items : List Value} {ds : List Datum} : MeansItems items ds →
    ∀ (layout : Layout) (r : List Char), Grammar.MoreItems (moreItems layout items ++ r) ds r
  | .nil, layout, r => by
    simp only [moreItems, List.append_assoc]
    exact .close (layout.blanks_lineStart _)
  | .cons first more, layout, r => by
    simp only [moreItems, List.cons_append, List.append_assoc]
    exact .item .done (layout.inner.blanks_lineStart _) (first.chars layout.inner _)
      (more.chars layout r)

theorem MeansMembers.chars {members : List (String × Value)} {ms : List (String × Datum)} :
    MeansMembers members ms →
    ∀ (layout : Layout) (r : List Char), Grammar.MoreMembers (moreMembers layout members ++ r) ms r
  | .nil, layout, r => by
    simp only [moreMembers, List.append_assoc]
    exact .close (layout.blanks_lineStart _)
  | .cons first more, layout, r => by
    simp only [moreMembers, List.cons_append, List.append_assoc]
    exact .member .done (layout.inner.blanks_lineStart _)
      (member_chars layout _ (first.chars layout.inner _)) (more.chars layout r)

end

/-- What is printed of a value, over one line or more, is a document that says its datum. -/
theorem Means.isDocument_append (h : v.Means d) (layout : Layout) (blanks : Grammar.Blanks r []) :
    IsDocument (v.chars layout ++ r) d :=
  .value .done (h.chars layout r) blanks

theorem Means.isDocument (h : v.Means d) (layout : Layout) : IsDocument (v.chars layout) d := by
  rw [← List.append_nil (v.chars layout)]
  exact h.isDocument_append layout .done

theorem means_texts (lines : List String) : (texts lines).Means (.texts lines) := by
  apply Means.list
  induction lines with
  | nil => exact .nil
  | cons s lines ih => exact .cons .text ih

theorem means_ofText? (s : Option String) : (ofText? s).Means (.ofText? s) := by
  cases s with
  | none => exact .null
  | some s => exact .text

end Value

end GuestWatch.Json
