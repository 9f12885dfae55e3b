import GuestWatch.Proofs.LineReader.Lines

/-! # How far a read goes

A read goes over octets without a line feed and over delays that it may wait for. What it meets then
ends it: a line feed, a failure, an end of file, a delay that is too long, or a source that hangs.
-/
namespace GuestWatch

namespace Stream

/-- A stream with octets put back in front of it. -/
def putBack (s : Stream) : List UInt8 → Stream
  | [] => s
  | data => .bytes data :: s

/-- A stream on which nothing but octets and time goes by. -/
def Plain (s : Stream) : Prop :=
  ∀ e ∈ s, (∃ data, e = .bytes data) ∨ ∃ ms, e = .delay ms

/-- What a read goes over that may wait so long. -/
structure Passed (s : Stream) (wait : Nat) : Prop where
  plain : s.Plain
  unfinished : lineFeed ∉ s.octets
  soon : s.totalDelay ≤ wait

/-- A stream that is at an end of file, and what comes after it. The end of a stream stays. -/
inductive AtEnd : Stream → Stream → Prop
  | ending (s : Stream) : AtEnd (.ending :: s) s
  | done : AtEnd [] []

variable {s rest : Stream} {data : List UInt8} {ms wait : Nat}

@[simp] theorem octets_bytes (data : List UInt8) (s : Stream) :
    octets (.bytes data :: s) = data ++ s.octets := by simp [octets]

@[simp] theorem octets_delay (ms : Nat) (s : Stream) : octets (.delay ms :: s) = s.octets := by
  simp [octets]

@[simp] theorem octets_failure (reason : String) (s : Stream) :
    octets (.failure reason :: s) = s.octets := by simp [octets]

@[simp] theorem octets_hang (s : Stream) : octets (.hang :: s) = s.octets := by simp [octets]

@[simp] theorem octets_putBack (s : Stream) (data : List UInt8) :
    (s.putBack data).octets = data ++ s.octets := by cases data <;> simp [putBack]

theorem not_mem_putBack (endless : Event.ending ∉ s) : Event.ending ∉ s.putBack data := by
  cases data <;> simp [putBack, endless]

@[simp] theorem octets_append (s rest : Stream) :
    octets (s ++ rest) = s.octets ++ rest.octets := by simp [octets]

@[simp] theorem totalDelay_bytes (data : List UInt8) (s : Stream) :
    totalDelay (.bytes data :: s) = s.totalDelay := rfl

@[simp] theorem totalDelay_delay (ms : Nat) (s : Stream) :
    totalDelay (.delay ms :: s) = ms + s.totalDelay := rfl

@[simp] theorem totalDelay_append (s rest : Stream) :
    totalDelay (s ++ rest) = s.totalDelay + rest.totalDelay := by
  induction s with
  | nil => simp [totalDelay]
  | cons e s ih => cases e <;> simp [totalDelay, ih, Nat.add_assoc]

theorem Plain.bytes_cons (plain : s.Plain) (data : List UInt8) : Plain (.bytes data :: s) :=
  List.forall_mem_cons.mpr ⟨.inl ⟨data, rfl⟩, plain⟩

theorem Plain.delay_cons (plain : s.Plain) (ms : Nat) : Plain (.delay ms :: s) :=
  List.forall_mem_cons.mpr ⟨.inr ⟨ms, rfl⟩, plain⟩

theorem Plain.endless (plain : s.Plain) : Event.ending ∉ s := by
  intro he
  obtain ⟨data, hd⟩ | ⟨ms, hd⟩ := plain _ he
  · cases hd
  · cases hd

/-- Where no end of file comes before it, a stream ends only where there is nothing left of it. -/
theorem AtEnd.eq_nil {after : Stream} (h : s.AtEnd after) (endless : Event.ending ∉ s) :
    s = [] ∧ after = [] := by
  cases h with
  | ending => exact absurd List.mem_cons_self endless
  | done => exact ⟨rfl, rfl⟩

theorem Passed.nil : Passed [] wait where
  plain := by simp [Plain]
  unfinished := by simp [octets]
  soon := Nat.zero_le wait

theorem Passed.bytes_cons (h : s.Passed wait) (hd : lineFeed ∉ data) :
    Passed (.bytes data :: s) wait where
  plain := h.plain.bytes_cons data
  unfinished := by simp [hd, h.unfinished]
  soon := h.soon

theorem Passed.delay_cons (h : s.Passed (wait - ms)) (soon : ms ≤ wait) :
    Passed (.delay ms :: s) wait where
  plain := h.plain.delay_cons ms
  unfinished := by simp [h.unfinished]
  soon := by
    have := h.soon
    simp only [totalDelay]
    omega

/-- Event after event: each is octets without a line feed, or a delay, which leaves less time. -/
@[elab_as_elim]
theorem Passed.induction {motive : ∀ (s : Stream) (wait : Nat), s.Passed wait → Prop}
    (nil : ∀ wait, motive [] wait .nil)
    (bytes : ∀ {data s wait} (hd : lineFeed ∉ data) (h : Passed s wait),
      motive s wait h → motive (.bytes data :: s) wait (h.bytes_cons hd))
    (delay : ∀ {ms s wait} (soon : ms ≤ wait) (h : Passed s (wait - ms)),
      motive s (wait - ms) h → motive (.delay ms :: s) wait (h.delay_cons soon))
    (h : s.Passed wait) : motive s wait h := by
  induction s generalizing wait with
  | nil => exact nil wait
  | cons e s ih =>
    obtain ⟨⟨data, rfl⟩ | ⟨ms, rfl⟩, plain⟩ := List.forall_mem_cons.mp h.plain
    · have unfinished := h.unfinished
      rw [octets_bytes, List.mem_append, not_or] at unfinished
      exact bytes unfinished.1 _ (ih ⟨plain, unfinished.2, h.soon⟩)
    · have unfinished := h.unfinished
      have soon := h.soon
      rw [octets_delay] at unfinished
      rw [totalDelay] at soon
      exact delay (by omega) _ (ih ⟨plain, unfinished, by omega⟩)

end Stream

namespace LineReader

variable {pending front back data : List UInt8} {got : Bool} {took budget wait : Nat}
  {s before after : Stream} {r : LineReader}

/-- The first line feed among octets finishes a line, and what follows it stays. -/
theorem readOn_line (h : lineFeed ∉ front) :
    readOn pending got took budget (.bytes (front ++ lineFeed :: back) :: s) =
      (.ok (some (lineText (pending ++ front ++ [lineFeed]))), took,
        ⟨s.putBack back, [], false⟩) := by
  cases back <;> simp [readOn, cut?_append_lineFeed h, Stream.putBack]

theorem readOn_open (h : lineFeed ∉ data) :
    readOn pending got took budget (.bytes data :: s) =
      readOn (pending ++ data) (got || !data.isEmpty) took budget s := by
  simp [readOn, cut?_of_not_mem h]

/-- What a read gives at an end of file, with a stream behind it. -/
def atEnd (pending : List UInt8) (got : Bool) (took : Nat) (s : Stream) : Answer :=
  if got then (.ok (some (lineText pending)), took, ⟨s, [], false⟩)
  else if pending.isEmpty then (.error .streamClosed, took, ⟨s, [], true⟩)
  else (.ok (some (lineText pending)), took, ⟨s, [], true⟩)

theorem readOn_atEnd (h : s.AtEnd after) : readOn pending got took budget s =
    atEnd pending got took after := by
  cases h <;> rfl

/-- A read goes over octets and delays as if it had begun after them, but for the octets that it
has obtained and the time that it has taken. -/
theorem readOn_append (h : before.Passed budget) :
    readOn pending got took budget (before ++ s) =
      readOn (pending ++ before.octets) (got || !before.octets.isEmpty)
        (took + before.totalDelay) (budget - before.totalDelay) s := by
  induction h using Stream.Passed.induction generalizing pending got took with
  | nil => simp [Stream.octets, Stream.totalDelay]
  | @bytes data before budget hd passed ih =>
    rw [List.cons_append, readOn_open hd, ih]
    cases data <;> simp [Stream.totalDelay]
  | @delay ms before budget soon passed ih =>
    rw [List.cons_append, readOn, if_pos soon, ih, Stream.octets_delay, Stream.totalDelay,
      Nat.add_assoc, Nat.sub_sub]

/-- A closed reader takes neither time nor octets. -/
theorem nextLine_closed (closed : r.closed = true) (wait : Nat) :
    r.nextLine wait = (.error .streamClosed, 0, r) := by
  rw [nextLine, if_pos closed]

/-- What ends a read that has gone over `before`, and what the read gives then. -/
inductive Ended (r : LineReader) (wait : Nat) (before : Stream) : Stream → Answer → Prop
  | line {front : List UInt8} (h : lineFeed ∉ front) (back : List UInt8) (s : Stream) :
    Ended r wait before (.bytes (front ++ lineFeed :: back) :: s)
      (.ok (some (lineText (r.pending ++ before.octets ++ front ++ [lineFeed]))),
        before.totalDelay, ⟨s.putBack back, [], false⟩)
  | failed (reason : String) (s : Stream) :
    Ended r wait before (.failure reason :: s)
      (.error (.readFailed reason), before.totalDelay, ⟨s, r.pending ++ before.octets, false⟩)
  | finished {s after : Stream} (h : s.AtEnd after) (obtained : before.octets ≠ []) :
    Ended r wait before s
      (.ok (some (lineText (r.pending ++ before.octets))), before.totalDelay, ⟨after, [], false⟩)
  | last {s after : Stream} (h : s.AtEnd after) (idle : before.octets = [])
    (kept : r.pending ≠ []) :
    Ended r wait before s
      (.ok (some (lineText r.pending)), before.totalDelay, ⟨after, [], true⟩)
  | closed {s after : Stream} (h : s.AtEnd after) (idle : before.octets = [])
    (kept : r.pending = []) :
    Ended r wait before s (.error .streamClosed, before.totalDelay, ⟨after, [], true⟩)
  | late {ms : Nat} (h : wait < before.totalDelay + ms) (s : Stream) :
    Ended r wait before (.delay ms :: s)
      (.ok none, wait,
        ⟨.delay (before.totalDelay + ms - wait) :: s, r.pending ++ before.octets, false⟩)
  | hung (s : Stream) :
    Ended r wait before (.hang :: s)
      (.ok none, wait, ⟨.hang :: s, r.pending ++ before.octets, false⟩)

/-- A read has gone over what comes first in its source. -/
theorem nextLine_append (opened : r.closed = false) (split : r.source = before ++ s)
    (h : before.Passed wait) :
    r.nextLine wait = readOn (r.pending ++ before.octets) (!before.octets.isEmpty)
      before.totalDelay (wait - before.totalDelay) s := by
  rw [nextLine, opened, split, if_neg Bool.false_ne_true, readOn_append h, Bool.false_or,
    Nat.zero_add]

/-- An end of file finishes the line of a read that has obtained octets, and closes the reader to
one that has not. -/
theorem nextLine_atEnd (opened : r.closed = false) (split : r.source = before ++ s)
    (h : before.Passed wait) (ended : s.AtEnd after) :
    Ended r wait before s (r.nextLine wait) := by
  rw [nextLine_append opened split h, readOn_atEnd ended]
  by_cases idle : before.octets = []
  · by_cases kept : r.pending = []
    · simpa [idle, kept, atEnd] using Ended.closed ended idle kept
    · simpa [idle, kept, atEnd] using Ended.last ended idle kept
  · simpa [idle, atEnd] using Ended.finished ended idle

/-- What a read that may wait so long goes over before it meets something else. -/
theorem exists_passed (s : Stream) (wait : Nat) :
    ∃ before rest, s = before ++ rest ∧ before.Passed wait ∧
      (∀ data, rest.head? = some (.bytes data) → lineFeed ∈ data) ∧
      ∀ ms, rest.head? = some (.delay ms) → wait < before.totalDelay + ms := by
  induction s generalizing wait with
  | nil => exact ⟨[], [], rfl, .nil, by simp, by simp⟩
  | cons e s ih =>
    cases e with
    | bytes data =>
      by_cases hd : lineFeed ∈ data
      · exact ⟨[], .bytes data :: s, rfl, .nil, by simp [hd], by simp⟩
      · obtain ⟨before, rest, rfl, passed, octets, delay⟩ := ih wait
        exact ⟨.bytes data :: before, rest, rfl, passed.bytes_cons hd, octets, delay⟩
    | delay first =>
      by_cases soon : first ≤ wait
      · obtain ⟨before, rest, rfl, passed, octets, delay⟩ := ih (wait - first)
        refine ⟨.delay first :: before, rest, rfl, passed.delay_cons soon, octets, ?_⟩
        intro ms hm
        have := delay ms hm
        simp only [Stream.totalDelay]
        omega
      · refine ⟨[], .delay first :: s, rfl, .nil, by simp, ?_⟩
        simp only [List.head?_cons, Option.some.injEq, Event.delay.injEq, Stream.totalDelay]
        omega
    | failure reason => exact ⟨[], .failure reason :: s, rfl, .nil, by simp, by simp⟩
    | ending => exact ⟨[], .ending :: s, rfl, .nil, by simp, by simp⟩
    | hang => exact ⟨[], .hang :: s, rfl, .nil, by simp, by simp⟩

/-- Every read of an open reader goes over some of its source and is ended by what comes next. -/
theorem nextLine_ended (opened : r.closed = false) (wait : Nat) :
    ∃ before s, r.source = before ++ s ∧ before.Passed wait ∧
      Ended r wait before s (r.nextLine wait) := by
  obtain ⟨before, rest, split, passed, octets, delay⟩ := exists_passed r.source wait
  refine ⟨before, rest, split, passed, ?_⟩
  have soon := passed.soon
  cases rest with
  | nil => exact nextLine_atEnd opened split passed .done
  | cons e rest =>
    cases e with
    | bytes data =>
      obtain ⟨front, back, rfl, hf⟩ := List.eq_append_cons_of_mem (octets data rfl)
      rw [nextLine_append opened split passed, readOn_line hf]
      exact .line hf back rest
    | delay ms =>
      have late := delay ms rfl
      have left : ms - (wait - before.totalDelay) = before.totalDelay + ms - wait := by omega
      rw [nextLine_append opened split passed, readOn, if_neg (by omega),
        Nat.add_sub_cancel' soon, left]
      exact .late late rest
    | failure reason =>
      rw [nextLine_append opened split passed]
      exact .failed reason rest
    | ending => exact nextLine_atEnd opened split passed (.ending rest)
    | hang =>
      rw [nextLine_append opened split passed, readOn, Nat.add_sub_cancel' soon]
      exact .hung rest

end LineReader

end GuestWatch
