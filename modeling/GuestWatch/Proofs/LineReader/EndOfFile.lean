import GuestWatch.Proofs.LineReader.Conservation

/-! # Ends of file

A read that reaches an end of file with octets of its own gives its line, and the reader is as new
for what comes after. One that reaches it with none closes the reader for good, and gives what
earlier reads have kept as a last line. Nothing else closes a reader, and none closes while it
keeps anything.
-/
namespace GuestWatch.LineReader

variable {r r' : LineReader} {wait took : Nat} {before after s : Stream} {answer : Reading}
  {answers : List Reading} {waits : List Nat}

/-- A read that may wait so long reaches an end of file: it goes over `before`, and the end of file
leaves `after`. -/
structure ReachesEnd (r : LineReader) (wait : Nat) (before after : Stream) : Prop where
  opened : r.closed = false
  passed : before.Passed wait
  ended : ∃ s, r.source = before ++ s ∧ s.AtEnd after

/-- What every read leaves, with or without an end of file. -/
structure Heeds (r : LineReader) (wait : Nat) (answer : Reading) (r' : LineReader) : Prop where
  line : ∀ line, answer = .ok (some line) → r'.pending = []
  unheard : answer = .ok none ∨ (∃ reason, answer = .error (.readFailed reason)) →
    r'.closed = false ∧ r.Kept r'
  streamClosed : answer = .error .streamClosed → r'.closed = true ∧ r.pending = [] ∧ r'.pending = []
  closed : r'.closed = true →
    r.closed = true ∨ ∃ before after, r.ReachesEnd wait before after ∧ before.octets = []

/-! ## One read -/

theorem nextLine_finishes (reaches : r.ReachesEnd wait before after)
    (obtained : before.octets ≠ []) :
    r.nextLine wait =
      (.ok (some (lineText (r.pending ++ before.octets))), before.totalDelay, ofStream after) := by
  obtain ⟨s, split, ended⟩ := reaches.ended
  rw [nextLine_append reaches.opened split reaches.passed, readOn_atEnd ended]
  simp [atEnd, obtained, ofStream]

theorem nextLine_closes (reaches : r.ReachesEnd wait before after) (idle : before.octets = []) :
    r.nextLine wait =
      (if r.pending = [] then .error .streamClosed else .ok (some (lineText r.pending)),
        before.totalDelay, ⟨after, [], true⟩) := by
  obtain ⟨s, split, ended⟩ := reaches.ended
  rw [nextLine_append reaches.opened split reaches.passed, readOn_atEnd ended]
  by_cases kept : r.pending = [] <;> simp [atEnd, idle, kept]

theorem Ended.heeds (opened : r.closed = false) (passed : before.Passed wait)
    (split : r.source = before ++ s) (h : Ended r wait before s (answer, took, r')) :
    r.Heeds wait answer r' := by
  cases h with
  | line => exact ⟨by simp, by simp, by simp, by simp⟩
  | failed => exact ⟨by simp, fun _ => ⟨rfl, kept_of_split split (by simp)⟩, by simp, by simp⟩
  | finished => exact ⟨by simp, by simp, by simp, by simp⟩
  | last ended idle =>
    have reaches := ReachesEnd.mk opened passed ⟨s, split, ended⟩
    exact ⟨by simp, by simp, by simp, fun _ => .inr ⟨before, _, reaches, idle⟩⟩
  | closed ended idle nothing =>
    have reaches := ReachesEnd.mk opened passed ⟨s, split, ended⟩
    exact ⟨by simp, by simp, fun _ => ⟨rfl, nothing, rfl⟩,
      fun _ => .inr ⟨before, _, reaches, idle⟩⟩
  | late => exact ⟨by simp, fun _ => ⟨rfl, kept_of_split split (by simp)⟩, by simp, by simp⟩
  | hung => exact ⟨by simp, fun _ => ⟨rfl, kept_of_split split rfl⟩, by simp, by simp⟩

theorem nextLine_heeds (spent : r.closed = true → r.pending = [])
    (h : r.nextLine wait = (answer, took, r')) : r.Heeds wait answer r' := by
  by_cases closed : r.closed = true
  · rw [nextLine_closed closed] at h
    cases h
    exact ⟨by simp, by simp, fun _ => ⟨closed, spent closed, spent closed⟩, fun _ => .inl closed⟩
  · have opened : r.closed = false := by simpa using closed
    obtain ⟨before, s, split, passed, ended⟩ := nextLine_ended opened wait
    rw [h] at ended
    exact ended.heeds opened passed split

/-! ## Reads one after another -/

theorem reads_closed (closed : r.closed = true) (waits : List Nat) :
    r.reads waits = (List.replicate waits.length (.error .streamClosed), r) := by
  induction waits with
  | nil => rfl
  | cons wait waits ih => simp [reads, nextLine_closed closed, ih, List.replicate_succ]

/-- A reader keeps nothing when it closes, so it has nothing when it has closed. -/
theorem reads_spent (spent : r.closed = true → r.pending = [])
    (h : r.reads waits = (answers, r')) : r'.closed = true → r'.pending = [] := by
  induction waits generalizing r answers with
  | nil =>
    cases h
    exact spent
  | cons wait waits ih =>
    obtain ⟨answer, took, next, later, hn, hw, rfl⟩ := reads_cons h
    have heeds := nextLine_heeds spent hn
    apply ih _ hw
    intro closed
    rcases answer with f | _ | line
    · obtain rfl | ⟨reason, rfl⟩ := (nextLine_within hn).2 f rfl
      · exact (heeds.streamClosed rfl).2.2
      · exact absurd closed (by simp [(heeds.unheard (.inr ⟨reason, rfl⟩)).1])
    · exact absurd closed (by simp [(heeds.unheard (.inl rfl)).1])
    · exact heeds.line line rfl

/-- Whatever a source does and whatever its reads are told to wait: a read that reaches an end of
file gives all that is pending as a line if it has obtained octets itself, and what it leaves is a
new reader of what comes after; if it has obtained none, it gives what has been kept or says that
the stream is closed, and closes the reader. Nothing else closes it, and it keeps octets until then.
A closed reader says so at once, and stays as it is. -/
theorem reads_heed_ends (s : Stream) (waits : List Nat) :
    ∃ answers r, (ofStream s).reads waits = (answers, r) ∧
      (∀ wait before after, r.ReachesEnd wait before after → before.octets ≠ [] →
        r.nextLine wait = (.ok (some (lineText (r.pending ++ before.octets))), before.totalDelay,
          ofStream after)) ∧
      (∀ wait before after, r.ReachesEnd wait before after → before.octets = [] →
        r.nextLine wait =
          (if r.pending = [] then .error .streamClosed else .ok (some (lineText r.pending)),
            before.totalDelay, ⟨after, [], true⟩)) ∧
      (∀ wait answer took r', r.nextLine wait = (answer, took, r') → r.Heeds wait answer r') ∧
      (r.closed = true → (∀ wait, r.nextLine wait = (.error .streamClosed, 0, r)) ∧
        ∀ more, r.reads more = (List.replicate more.length (.error .streamClosed), r)) := by
  rcases h : (ofStream s).reads waits with ⟨answers, r⟩
  have spent : r.closed = true → r.pending = [] := reads_spent (by simp [ofStream]) h
  refine ⟨answers, r, rfl, ?_, ?_, ?_, ?_⟩
  · intro wait before after reaches obtained
    exact nextLine_finishes reaches obtained
  · intro wait before after reaches idle
    exact nextLine_closes reaches idle
  · intro wait answer took r' hn
    exact nextLine_heeds spent hn
  · intro closed
    exact ⟨nextLine_closed closed, reads_closed closed⟩

/-- An end of file after octets that an earlier read has kept, before which this read has only
waited: it is the last line, although there are more octets. -/
theorem reads_heed_ends_kept :
    ∃ r, (ofStream [.bytes [0x61, 0x62], .delay 5, .ending, .bytes [0x63, 0x0A]]).reads [3] =
        ([.ok none], r) ∧
      r.nextLine 2 = (.ok (some "ab"), 2, ⟨[.bytes [0x63, 0x0A]], [], true⟩) := by
  obtain ⟨answers, r, h, -, closes, -, -⟩ := reads_heed_ends
    [.bytes [0x61, 0x62], .delay 5, .ending, .bytes [0x63, 0x0A]] [3]
  obtain rfl : answers = [.ok none] := (congrArg Prod.fst h).symm
  obtain rfl : r = ⟨[.delay 2, .ending, .bytes [0x63, 0x0A]], [0x61, 0x62], false⟩ :=
    (congrArg Prod.snd h).symm
  have passed : Stream.Passed [.delay 2] 2 := ⟨by simp [Stream.Plain], by decide, by decide⟩
  exact ⟨_, h, closes 2 [.delay 2] _ ⟨rfl, passed, _, rfl, .ending _⟩ rfl⟩

end GuestWatch.LineReader
