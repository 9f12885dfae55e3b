import GuestWatch.Text.Utf8

/-! # Line feeds through the decoder

A line feed is read as itself wherever it stands, and it ends whatever character was begun before
it. Text may therefore be cut at its line feeds before or after it is decoded. Only the octet of a
line feed is ever read as one.
-/
namespace GuestWatch.Text.Utf8

/-- What a state that the decoder reaches owes and has read. The last alternative is a character
begun with no bits of its own, whose next octet must bring some. -/
def State.Reached : State → Prop
  | .start => True
  | .inside left low _ code => 0x80 ≤ low ∧ (0 < code ∨ 0 < left ∧ 0x80 < low)

theorem State.reached_start : State.start.Reached := trivial

theorem lead_reached (b : UInt8) : (lead b).2.Reached := by
  unfold lead
  repeat' split
  all_goals simp_all only [State.Reached, UInt8.lt_iff_toNat_lt, UInt8.le_iff_toNat_le,
    ← UInt8.toNat_inj, UInt8.reduceToNat]
  all_goals omega

theorem step_reached {s : State} (h : s.Reached) (b : UInt8) : (step s b).2.Reached := by
  cases s with
  | start => exact lead_reached b
  | inside left low high code =>
    obtain ⟨hl, hc⟩ := h
    by_cases hb : low ≤ b ∧ b ≤ high
    · cases left with
      | zero => simp [step, hb, State.Reached]
      | succ left =>
        simp only [step, hb, and_self, if_true, State.Reached]
        refine ⟨by decide, .inl ?_⟩
        obtain hc | ⟨_, hc⟩ := hc
        · omega
        · have : 0x80 < b.toNat := UInt8.lt_iff_toNat_lt.mp (UInt8.lt_of_lt_of_le hc hb.1)
          omega
    · simpa only [step, if_neg hb] using lead_reached b

theorem step_lineFeed {s : State} (h : s.Reached) :
    step s 0x0A = (close s ++ ['\n'], .start) := by
  cases s with
  | start => rfl
  | inside left low high code =>
    have hb : ¬(low ≤ 0x0A ∧ 0x0A ≤ high) := fun hb =>
      absurd (UInt8.le_trans h.1 hb.1) (by decide)
    rw [step, if_neg hb]
    rfl

theorem decodeFrom_append_lineFeed {s : State} (h : s.Reached) (front back : List UInt8) :
    decodeFrom s (front ++ 0x0A :: back) = decodeFrom s front ++ '\n' :: decodeChars back := by
  induction front generalizing s with
  | nil => simp [decodeFrom_cons, decodeFrom_nil, step_lineFeed h, decodeChars]
  | cons b front ih =>
    rw [List.cons_append, decodeFrom_cons, decodeFrom_cons, ih (step_reached h b),
      List.append_assoc]

theorem decodeChars_append_lineFeed (front back : List UInt8) :
    decodeChars (front ++ 0x0A :: back) = decodeChars front ++ '\n' :: decodeChars back :=
  decodeFrom_append_lineFeed State.reached_start front back

theorem eq_of_ofNat_eq_newline {n : Nat} (h : Char.ofNat n = '\n') : n = 10 := by
  by_cases hn : n.isValidChar
  · rw [Char.ofNat, dif_pos hn] at h
    exact congrArg Char.toNat h
  · rw [Char.ofNat, dif_neg hn] at h
    exact absurd h (by decide)

theorem newline_not_mem_lead {b : UInt8} (hb : b ≠ 0x0A) : '\n' ∉ (lead b).1 := by
  have hn : '\n' ≠ Char.ofNat b.toNat := fun h =>
    hb (UInt8.toNat_inj.mp (eq_of_ofNat_eq_newline h.symm))
  unfold lead
  repeat' split
  all_goals simp [hn, replacement]

theorem newline_not_mem_step {s : State} (h : s.Reached) {b : UInt8} (hb : b ≠ 0x0A) :
    '\n' ∉ (step s b).1 := by
  cases s with
  | start => exact newline_not_mem_lead hb
  | inside left low high code =>
    by_cases fits : low ≤ b ∧ b ≤ high
    · cases left with
      | zero =>
        have hc : 0 < code := h.2.resolve_right (by simp)
        have hn : '\n' ≠ Char.ofNat (code * 64 + (b.toNat - 0x80)) := fun h => by
          have := eq_of_ofNat_eq_newline h.symm
          omega
        simp only [step, fits, and_self, if_true, List.mem_singleton]
        exact hn
      | succ left => simp [step, fits]
    · rw [step, if_neg fits]
      exact List.not_mem_cons_of_ne_of_not_mem (by decide) (newline_not_mem_lead hb)

theorem newline_not_mem_close (s : State) : '\n' ∉ close s := by
  cases s <;> simp [close, replacement]

theorem newline_not_mem_decodeFrom {s : State} (h : s.Reached) {bytes : List UInt8}
    (hb : 0x0A ∉ bytes) : '\n' ∉ decodeFrom s bytes := by
  induction bytes generalizing s with
  | nil => exact newline_not_mem_close s
  | cons b bytes ih =>
    have first : b ≠ 0x0A := (List.ne_of_not_mem_cons hb).symm
    have rest : 0x0A ∉ bytes := List.not_mem_of_not_mem_cons hb
    rw [decodeFrom_cons, List.mem_append, not_or]
    exact ⟨newline_not_mem_step h first, ih (step_reached h b) rest⟩

theorem newline_not_mem_decodeChars {bytes : List UInt8} (hb : 0x0A ∉ bytes) :
    '\n' ∉ decodeChars bytes := newline_not_mem_decodeFrom State.reached_start hb

end GuestWatch.Text.Utf8
