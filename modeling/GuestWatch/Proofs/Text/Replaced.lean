import GuestWatch.Proofs.Text.IllFormed

/-! # What replacement loses

Octets can be told from their text unless the text has a replacement character: this can stand for
itself, as it is encoded, and for what is ill formed.
-/
namespace GuestWatch.Text.Utf8

variable {bytes : List UInt8} {cs : List Char}

/-- An octet that no character has is ill formed wherever it stands. -/
theorem illFormed_last (rest : List UInt8) : IllFormed [0xFF] rest := lead_illFormed (by decide)

theorem Reads.encodeChars (h : Reads bytes cs) (plain : replacement ∉ cs) :
    Utf8.encodeChars cs = bytes := by
  induction h with
  | nil => rfl
  | character c h ih =>
    have rest := ih fun mem => plain (List.mem_cons_of_mem c mem)
    rw [← List.singleton_append, encodeChars_append, rest]
    simp [Utf8.encodeChars]
  | illFormed => exact absurd List.mem_cons_self plain

/-- Where a replacement character has been read, its encoding or an ill-formed octet could stand as
well. -/
theorem Reads.exists_other (h : Reads bytes cs) (replaced : replacement ∈ cs) :
    ∃ other, other ≠ bytes ∧ Reads other cs := by
  induction h with
  | nil => cases replaced
  | @character c rest cs h ih =>
    by_cases here : c = replacement
    · subst here
      refine ⟨[0xFF] ++ rest, ?_, .illFormed (illFormed_last rest) h⟩
      exact fun same => absurd (List.cons.inj same).1 (by decide)
    · obtain ⟨other, ne, reads⟩ := ih (List.mem_of_ne_of_mem (Ne.symm here) replaced)
      exact ⟨_, fun same => ne (List.append_cancel_left same), .character c reads⟩
  | @illFormed piece rest cs unreadable h =>
    refine ⟨_, fun same => unreadable.unreadable replacement ?_, .character replacement h⟩
    exact ⟨rest, same⟩

/-- Octets are the only ones with their text exactly if it has no replacement character. -/
theorem decode_determines_iff :
    (∀ other, decode other = decode bytes → other = bytes) ↔
      replacement ∉ (decode bytes).toList := by
  have read : Reads bytes (decodeChars bytes) := reads_iff.mpr rfl
  rw [decode, String.toList_ofList]
  constructor
  · intro determined replaced
    obtain ⟨other, ne, reads⟩ := read.exists_other replaced
    exact ne (determined other (by rw [decode, reads_iff.mp reads]))
  · intro plain other same
    have chars : decodeChars other = decodeChars bytes := String.ofList_injective same
    have readOther : Reads other (decodeChars bytes) := reads_iff.mpr chars
    rw [← read.encodeChars plain, readOther.encodeChars plain]

end GuestWatch.Text.Utf8
