import GuestWatch.Markers
import GuestWatch.Proofs.Text.Numerals
import GuestWatch.Proofs.Text.Stripped

/-! # The language of the test runner

The runner has three kinds of lines that decide a run: the banner of a complete success, any line
with the banner of a kernel panic in it, and a tally of fewer tests passed than run. No line is of
two kinds.
-/
namespace GuestWatch

open Text (isBlank trim)
open Text.Decimal (Numeral readUnsigned max64)

namespace Runner

/-- A numeral with blanks about it, or none. -/
def Count (text : List Char) (n : Nat) : Prop :=
  ∃ front numeral back, text = front ++ numeral ++ back ∧ (∀ c ∈ front, isBlank c = true) ∧
    (∀ c ∈ back, isBlank c = true) ∧ Numeral numeral n

/-- A line that tells how many tests have passed of how many. -/
def Tally (line : List Char) (passed total : Nat) : Prop :=
  ∃ front back, line = tallyStart.toList ++ (front ++ '/' :: back) ++ tallyEnd.toList ∧
    Count front passed ∧ Count back total

/-- A tally of fewer tests passed than run, in numbers of 64 bits. -/
structure Shortfall (line : List Char) (passed total : Nat) : Prop where
  tally : Tally line passed total
  passed_lt : passed < UInt64.size
  total_lt : total < UInt64.size
  fewer : passed < total

variable {part start stop text line rest front back : List Char} {n passed total : Nat} {c : Char}

/-! ## Parts of a text -/

theorem occursIn_iff : occursIn part text = true ↔ part <:+: text := by
  induction text with
  | nil => simp [occursIn]
  | cons c text ih =>
    rw [occursIn, Bool.or_eq_true, ih, List.isPrefixOf_iff_prefix, List.infix_cons_iff]

theorem after?_eq_some : after? start text = some rest ↔ text = start ++ rest := by
  by_cases h : start <+: text
  · obtain ⟨tail, rfl⟩ := h
    simp [after?]
  · simp only [after?, List.isPrefixOf_iff_prefix, h, if_false, reduceCtorEq, false_iff]
    rintro rfl
    exact h (List.prefix_append _ _)

theorem before?_eq_some : before? stop text = some front ↔ text = front ++ stop := by
  rw [before?, Option.map_eq_some_iff]
  constructor
  · rintro ⟨turned, h, rfl⟩
    rw [after?_eq_some, List.reverse_eq_iff, List.reverse_append, List.reverse_reverse] at h
    exact h
  · rintro rfl
    exact ⟨front.reverse, after?_eq_some.mpr List.reverse_append, List.reverse_reverse front⟩

/-- The first slash is the one that a text is cut at. -/
theorem cut_at_slash (h : '/' ∉ front) (back : List Char) :
    (front ++ '/' :: back).takeWhile (· ≠ '/') = front ∧
      ((front ++ '/' :: back).dropWhile (· ≠ '/')).drop 1 = back := by
  have before : ∀ c ∈ front, decide (c ≠ '/') = true := by
    intro c hc
    exact decide_eq_true fun slash => h (slash ▸ hc)
  constructor
  · rw [List.takeWhile_append_of_pos before]
    simp
  · rw [List.dropWhile_append_of_pos before]
    simp

/-! ## Counts -/

theorem isBlank_of_numeral (h : c = '+' ∨ c.isDigit = true) : isBlank c = false := by
  rcases h with rfl | digit
  · decide
  · rw [Char.isDigit_iff_toNat] at digit
    simp [isBlank] at digit ⊢
    omega

theorem Count.chars (h : Count text n) :
    ∀ c ∈ text, isBlank c = true ∨ c = '+' ∨ c.isDigit = true := by
  obtain ⟨front, numeral, back, rfl, first, last, number⟩ := h
  intro c hc
  simp only [List.mem_append] at hc
  rcases hc with (hc | hc) | hc
  · exact .inl (first c hc)
  · exact .inr (number.chars c hc)
  · exact .inl (last c hc)

theorem Count.slash_not_mem (h : Count text n) : '/' ∉ text := by
  intro hc
  exact absurd (h.chars '/' hc) (by decide)

theorem count?_eq_some : count? text = some n ↔ Count text n ∧ n ≤ max64 := by
  have read : count? text = some n ↔ readUnsigned max64 (trim text) = .ok n := by
    unfold count?
    cases readUnsigned max64 (trim text) <;> simp [Except.toOption]
  rw [read, Text.Decimal.readUnsigned_eq_ok]
  constructor
  · rintro ⟨numeral, fits⟩
    obtain ⟨front, back, split, first, last⟩ := Text.exists_strip isBlank text
    exact ⟨⟨front, _, back, split, first, last, numeral⟩, fits⟩
  · rintro ⟨⟨front, numeral, back, rfl, first, last, number⟩, fits⟩
    have bare : trim numeral = numeral :=
      Text.strip_of_none fun c hc => isBlank_of_numeral (number.chars c hc)
    rw [trim, Text.strip_append first last, ← trim, bare]
    exact ⟨number, fits⟩

/-! ## Tallies -/

theorem tally?_eq_some : tally? line = some (passed, total) ↔
    Tally line passed total ∧ passed ≤ max64 ∧ total ≤ max64 := by
  simp only [tally?, Option.bind_eq_bind, Option.bind_eq_some_iff, after?_eq_some,
    before?_eq_some]
  constructor
  · rintro ⟨_, rfl, counts, rfl, h⟩
    split at h
    · next slash =>
      rw [List.contains_iff_mem] at slash
      obtain ⟨front, back, rfl, first⟩ := List.eq_append_cons_of_mem slash
      obtain ⟨hf, hb⟩ := cut_at_slash first back
      rw [hf, hb] at h
      simp only [Option.bind_eq_some_iff, count?_eq_some] at h
      obtain ⟨p, ⟨count, fits⟩, t, ⟨count', fits'⟩, ⟨⟩⟩ := h
      exact ⟨⟨front, back, by simp, count, count'⟩, fits, fits'⟩
    · cases h
  · rintro ⟨⟨front, back, rfl, count, count'⟩, fits, fits'⟩
    refine ⟨_, List.append_assoc _ _ _, _, rfl, ?_⟩
    obtain ⟨hf, hb⟩ := cut_at_slash count.slash_not_mem back
    rw [if_pos (by simp), hf, hb, count?_eq_some.mpr ⟨count, fits⟩,
      count?_eq_some.mpr ⟨count', fits'⟩]
    rfl

theorem shortfall_iff : Shortfall line passed total ↔
    tally? line = some (passed, total) ∧ passed < total := by
  have bound (n : Nat) : n ≤ max64 ↔ n < UInt64.size := by
    simp only [max64, UInt64.size, Nat.pow_eq]
    omega
  rw [tally?_eq_some, bound, bound]
  constructor
  · rintro ⟨tally, passed_lt, total_lt, fewer⟩
    exact ⟨⟨tally, passed_lt, total_lt⟩, fewer⟩
  · rintro ⟨⟨tally, passed_lt, total_lt⟩, fewer⟩
    exact ⟨tally, passed_lt, total_lt, fewer⟩

/-! ## No line is of two kinds -/

theorem not_panic_of_allPassed : ¬ panicBanner.toList <:+: allPassedBanner.toList := by
  simp [panicBanner, allPassedBanner, List.infix_cons_iff]

theorem Count.star_not_mem (h : Count text n) : '*' ∉ text := by
  intro hc
  exact absurd (h.chars '*' hc) (by decide)

/-- Banners have stars in them, and tallies have none. -/
theorem Tally.star_not_mem (h : Tally line passed total) : '*' ∉ line := by
  obtain ⟨front, back, rfl, count, count'⟩ := h
  simp [tallyStart, tallyEnd, count.star_not_mem, count'.star_not_mem]

theorem Tally.ne_allPassed (h : Tally line passed total) : line ≠ allPassedBanner.toList := by
  rintro rfl
  exact h.star_not_mem (by simp [allPassedBanner])

theorem Tally.not_panic (h : Tally line passed total) : ¬ panicBanner.toList <:+: line := by
  intro panic
  exact h.star_not_mem (panic.subset (by simp [panicBanner]))

/-! ## Verdicts -/

/-- The lines that decide, each with what it decides. -/
inductive Decides (line : String) : Verdict → Prop
  | allPassed (h : line = allPassedBanner) : Decides line .pass
  | panic (h : panicBanner.toList <:+: line.toList) : Decides line (.fail .kernelPanic)
  | shortfall {passed total : Nat} (h : Shortfall line.toList passed total) :
    Decides line (.fail (.tally passed total))

variable {said : String} {v : Verdict}

theorem verdict?_eq_some : verdict? said = some v ↔ Decides said v := by
  constructor
  · intro h
    unfold verdict? at h
    split at h
    · next banner =>
      cases h
      exact .allPassed banner
    split at h
    · next panic =>
      cases h
      exact .panic (occursIn_iff.mp panic)
    split at h
    · next passed total tally =>
      split at h
      · next fewer =>
        cases h
        exact .shortfall (shortfall_iff.mpr ⟨tally, fewer⟩)
      · cases h
    · cases h
  · intro h
    cases h with
    | allPassed banner => rw [verdict?, if_pos banner]
    | panic panic =>
      have other : said ≠ allPassedBanner := by
        rintro rfl
        exact not_panic_of_allPassed panic
      rw [verdict?, if_neg other, if_pos (occursIn_iff.mpr panic)]
    | shortfall short =>
      have other : said ≠ allPassedBanner := by
        rintro rfl
        exact short.tally.ne_allPassed rfl
      have calm : ¬ occursIn panicBanner.toList said.toList = true :=
        fun panic => short.tally.not_panic (occursIn_iff.mp panic)
      obtain ⟨tally, fewer⟩ := shortfall_iff.mp short
      simp only [verdict?, if_neg other, if_neg calm, tally, if_pos fewer]

end Runner

/-! ## Reasons -/

namespace Reason

open Text.Decimal (digits digits_digits)

variable {passed total passed' total' : Nat}

theorem message_tally_toList (passed total : Nat) :
    (tally passed total).message.toList =
      digits passed ++ '/' :: (digits total ++ " tests passed".toList) := by
  simp [message, Text.Decimal.text]

theorem message_tally_ne_panic (passed total : Nat) :
    (tally passed total).message ≠ kernelPanic.message := by
  intro h
  have slash : '/' ∈ (tally passed total).message.toList := by
    rw [message_tally_toList]
    simp
  rw [h] at slash
  simp [message] at slash

/-- A tally can be read off its message: the slash comes after the digits of the first number. -/
theorem message_tally_inj (h : (tally passed total).message = (tally passed' total').message) :
    passed = passed' ∧ total = total' := by
  have bare (n : Nat) : '/' ∉ digits n := fun hc =>
    absurd ((digits_digits n).digits '/' hc) (by decide)
  have same := congrArg String.toList h
  rw [message_tally_toList, message_tally_toList] at same
  obtain ⟨front, back⟩ := Runner.cut_at_slash (bare passed) (digits total ++ " tests passed".toList)
  obtain ⟨front', back'⟩ :=
    Runner.cut_at_slash (bare passed') (digits total' ++ " tests passed".toList)
  rw [same] at front back
  have first : digits passed = digits passed' := front.symm.trans front'
  have second : digits total = digits total' :=
    List.append_cancel_right (back.symm.trans back')
  exact ⟨Text.Decimal.eq_of_digits_eq first, Text.Decimal.eq_of_digits_eq second⟩

end Reason

namespace Runner

variable {said : String} {why : Reason} {passed total : Nat}

theorem verdict?_eq_none : verdict? said = none ↔
    said ≠ allPassedBanner ∧ ¬ panicBanner.toList <:+: said.toList ∧
      ∀ passed total, ¬ Shortfall said.toList passed total := by
  simp only [Option.eq_none_iff_forall_ne_some, ne_eq, verdict?_eq_some]
  constructor
  · intro none
    exact ⟨fun banner => none _ (.allPassed banner), fun panic => none _ (.panic panic),
      fun _ _ short => none _ (.shortfall short)⟩
  · rintro ⟨banner, panic, short⟩ v decides
    cases decides with
    | allPassed h => exact banner h
    | panic h => exact panic h
    | shortfall h => exact short _ _ h

theorem Decides.panic_of_message (h : Decides said (.fail why))
    (message : why.message = "kernel panic") : panicBanner.toList <:+: said.toList := by
  cases h with
  | panic panic => exact panic
  | shortfall short => exact absurd message (Reason.message_tally_ne_panic _ _)

theorem Decides.shortfall_of_message (h : Decides said (.fail why))
    (message : why.message = (Reason.tally passed total).message) :
    Shortfall said.toList passed total := by
  cases h with
  | panic panic => exact absurd message.symm (Reason.message_tally_ne_panic _ _)
  | shortfall short =>
    obtain ⟨rfl, rfl⟩ := Reason.message_tally_inj message
    exact short

/-- What the protocol makes of a line. The lines that decide are of three kinds, no line is of two,
and what is said of a tally has its two numbers in the usual way. -/
theorem runner_language (said : String) :
    (verdict? said = some .pass ↔ said = allPassedBanner) ∧
    ((∃ why, verdict? said = some (.fail why) ∧ why.message = "kernel panic") ↔
      panicBanner.toList <:+: said.toList) ∧
    (∀ passed total,
      (∃ why, verdict? said = some (.fail why) ∧
        why.message = toString passed ++ "/" ++ toString total ++ " tests passed") ↔
      Shortfall said.toList passed total) ∧
    (verdict? said = none ↔ said ≠ allPassedBanner ∧ ¬ panicBanner.toList <:+: said.toList ∧
      ∀ passed total, ¬ Shortfall said.toList passed total) ∧
    ¬ (said = allPassedBanner ∧ panicBanner.toList <:+: said.toList) ∧
    ∀ passed total, Shortfall said.toList passed total →
      said ≠ allPassedBanner ∧ ¬ panicBanner.toList <:+: said.toList := by
  simp only [verdict?_eq_some]
  refine ⟨?_, ?_, ?_, verdict?_eq_none, ?_, ?_⟩
  · constructor
    · rintro ⟨banner⟩
      exact banner
    · exact .allPassed
  · constructor
    · rintro ⟨why, decides, message⟩
      exact decides.panic_of_message message
    · intro panic
      exact ⟨.kernelPanic, .panic panic, rfl⟩
  · intro passed total
    have message : (Reason.tally passed total).message =
        toString passed ++ "/" ++ toString total ++ " tests passed" := by
      simp only [Reason.message, Text.Decimal.text_eq]
    rw [← message]
    constructor
    · rintro ⟨why, decides, message⟩
      exact decides.shortfall_of_message message
    · intro short
      exact ⟨.tally passed total, .shortfall short, rfl⟩
  · rintro ⟨rfl, panic⟩
    exact not_panic_of_allPassed panic
  · intro passed total short
    refine ⟨?_, short.tally.not_panic⟩
    rintro rfl
    exact short.tally.ne_allPassed rfl

/-- Blanks, a plus sign and zeros before the digits are read over. -/
theorem runner_language_padded :
    ∃ why, verdict? "[runner] Run complete: \t+007 /012 passed" = some (.fail why) ∧
      why.message = "7/12 tests passed" := by
  obtain ⟨-, -, tallies, -⟩ := runner_language "[runner] Run complete: \t+007 /012 passed"
  have seven : Count "\t+007 ".toList 7 :=
    ⟨['\t'], ['+', '0', '0', '7'], [' '], by simp, by simp [isBlank], by simp [isBlank],
      .signed ⟨by simp, by simp, rfl⟩⟩
  have twelve : Count "012".toList 12 :=
    ⟨[], ['0', '1', '2'], [], by simp, by simp, by simp, .unsigned ⟨by simp, by simp, rfl⟩⟩
  have tally : Tally "[runner] Run complete: \t+007 /012 passed".toList 7 12 :=
    ⟨_, _, by simp [tallyStart, tallyEnd], seven, twelve⟩
  exact (tallies 7 12).mpr ⟨tally, by decide, by decide, by decide⟩

end Runner

end GuestWatch
