import Mathlib.Order.Bounds.Basic
import GuestWatch.Proofs.LineReader.Conservation

/-! # When reads answer

What arrives from a stream has its time, counted from when the stream is first listened to. A read
answers at the first time at which a line feed, a failure or an end of file arrives, unless its own
time is over before. What it leaves arrives when it would have arrived anyway, so a delay that one
read begins goes on in the next.
-/
namespace GuestWatch

inductive Arrival
  | octet (b : UInt8)
  | failure (reason : String)
  | ending
deriving DecidableEq, Repr

namespace Arrival

/-- Line feeds, failures and ends of file are answers to a read. -/
def IsAnswer : Arrival → Prop
  | .octet b => b = lineFeed
  | .failure _ | .ending => True

/-- What a read says at such an arrival, after the octets of an unfinished line. -/
def reading (unfinished : List UInt8) : Arrival → Reading
  | .octet b => .ok (some (lineText (unfinished ++ [b])))
  | .failure reason => .error (.readFailed reason)
  | .ending =>
    if unfinished = [] then .error .streamClosed else .ok (some (lineText unfinished))

end Arrival

namespace Stream

/-- What arrives from a stream that is listened to from a time on. Its end comes last, and nothing
comes from a source that hangs. -/
def arrivals (now : Nat) : Stream → List (Nat × Arrival)
  | [] => [(now, .ending)]
  | .bytes data :: s => data.map (fun b => (now, .octet b)) ++ arrivals now s
  | .delay ms :: s => arrivals (now + ms) s
  | .failure reason :: s => (now, .failure reason) :: arrivals now s
  | .ending :: s => (now, .ending) :: arrivals now s
  | .hang :: _ => []

/-- The times at which a read has an answer. -/
def answerTimes (now : Nat) (s : Stream) : Set Nat :=
  {t | ∃ a, (t, a) ∈ s.arrivals now ∧ a.IsAnswer}

/-- Arrivals that are the octets of an unfinished line. -/
structure Unfinished (heard : List (Nat × Arrival)) (octets : List UInt8) : Prop where
  said : heard.map Prod.snd = octets.map .octet
  unfinished : lineFeed ∉ octets

variable {now t ms : Nat} {s before : Stream} {a : Arrival} {heard rest : List (Nat × Arrival)}
  {octets more data : List UInt8}

theorem Unfinished.not_isAnswer (h : Unfinished heard octets) (ha : (t, a) ∈ heard) :
    ¬ a.IsAnswer := by
  have mem : a ∈ octets.map .octet := h.said ▸ List.mem_map_of_mem ha
  obtain ⟨b, hb, rfl⟩ := List.mem_map.mp mem
  rintro rfl
  exact h.unfinished hb

theorem Unfinished.append {later : List (Nat × Arrival)} (h : Unfinished heard octets)
    (h' : Unfinished later more) : Unfinished (heard ++ later) (octets ++ more) where
  said := by simp [h.said, h'.said]
  unfinished := by simp [h.unfinished, h'.unfinished]

theorem Unfinished.at_once (now : Nat) (h : lineFeed ∉ data) :
    Unfinished (data.map fun b => (now, .octet b)) data where
  said := by simp
  unfinished := h

/-- Nothing arrives before it is listened to. -/
theorem le_of_mem_arrivals (h : (t, a) ∈ s.arrivals now) : now ≤ t := by
  induction s generalizing now with
  | nil => simp_all [arrivals]
  | cons e s ih =>
    cases e with
    | bytes data =>
      rcases List.mem_append.mp h with first | later
      · obtain ⟨b, -, hb⟩ := List.mem_map.mp first
        exact Nat.le_of_eq (congrArg Prod.fst hb)
      · exact ih later
    | delay ms => exact Nat.le_trans (Nat.le_add_right now ms) (ih h)
    | failure reason =>
      rcases List.mem_cons.mp h with first | later
      · exact Nat.le_of_eq (congrArg Prod.fst first).symm
      · exact ih later
    | ending =>
      rcases List.mem_cons.mp h with first | later
      · exact Nat.le_of_eq (congrArg Prod.fst first).symm
      · exact ih later
    | hang => cases h

/-- Things arrive in order. -/
theorem arrivals_sorted (now : Nat) (s : Stream) :
    (s.arrivals now).Pairwise fun x y => x.1 ≤ y.1 := by
  induction s generalizing now with
  | nil => simp [arrivals]
  | cons e s ih =>
    cases e with
    | bytes data =>
      refine List.pairwise_append.mpr ⟨?_, ih now, ?_⟩
      · exact List.pairwise_map.mpr (List.pairwise_of_forall fun _ _ => Nat.le_refl now)
      · intro x hx y hy
        obtain ⟨b, -, rfl⟩ := List.mem_map.mp hx
        exact le_of_mem_arrivals hy
    | delay ms => exact ih (now + ms)
    | failure reason => exact List.pairwise_cons.mpr ⟨fun y hy => le_of_mem_arrivals hy, ih now⟩
    | ending => exact List.pairwise_cons.mpr ⟨fun y hy => le_of_mem_arrivals hy, ih now⟩
    | hang => exact List.Pairwise.nil

/-- The first arrival that is an answer has the earliest time of all that are. -/
theorem isLeast_answerTimes (split : s.arrivals now = heard ++ (t, a) :: rest)
    (unfinished : Unfinished heard octets) (answer : a.IsAnswer) :
    IsLeast (s.answerTimes now) t := by
  constructor
  · exact ⟨a, by simp [split], answer⟩
  · rintro t' ⟨a', mem, answer'⟩
    have sorted := arrivals_sorted now s
    rw [split] at mem sorted
    rcases List.mem_append.mp mem with first | later
    · exact absurd answer' (unfinished.not_isAnswer first)
    · rcases List.mem_cons.mp later with same | later
      · exact Nat.le_of_eq (congrArg Prod.fst same).symm
      · exact (List.pairwise_cons.mp (List.pairwise_append.mp sorted).2.1).1 _ later

/-- What a read goes over arrives as octets of an unfinished line; then comes what it meets. -/
theorem Passed.arrivals_append {wait : Nat} (h : before.Passed wait) (now : Nat) (s : Stream) :
    ∃ heard, arrivals now (before ++ s) = heard ++ s.arrivals (now + before.totalDelay) ∧
      Unfinished heard before.octets := by
  induction h using Passed.induction generalizing now with
  | nil => exact ⟨[], rfl, ⟨rfl, List.not_mem_nil⟩⟩
  | @bytes data before _ hd passed ih =>
    obtain ⟨heard, split, later⟩ := ih now
    refine ⟨data.map (fun b => (now, .octet b)) ++ heard, ?_, ?_⟩
    · simp [arrivals, split, totalDelay]
    · rw [octets_bytes]
      exact (Unfinished.at_once now hd).append later
  | @delay ms before _ soon passed ih =>
    obtain ⟨heard, split, later⟩ := ih (now + ms)
    refine ⟨heard, ?_, by rwa [octets_delay]⟩
    rw [List.cons_append, arrivals, split, totalDelay, Nat.add_assoc]

theorem arrivals_line (now : Nat) (front back : List UInt8) (s : Stream) :
    arrivals now (.bytes (front ++ lineFeed :: back) :: s) =
      front.map (fun b => (now, .octet b)) ++
        (now, .octet lineFeed) :: (s.putBack back).arrivals now := by
  cases back <;> simp [arrivals, putBack]

/-- An end of file arrives once, but for the end of a stream. -/
theorem AtEnd.arrivals {after : Stream} (h : s.AtEnd after) (now : Nat) :
    ∃ rest, s.arrivals now = (now, .ending) :: rest ∧
      (after.arrivals now = rest ∨ rest = [] ∧ after = []) := by
  cases h with
  | ending => exact ⟨_, rfl, .inl rfl⟩
  | done => exact ⟨[], rfl, .inr ⟨rfl, rfl⟩⟩

end Stream

namespace LineReader

/-- A read that begins at a time and may wait so long, as the arrivals at its source would have it.
What is left arrives after it, and the end of a stream is met again by every read. -/
structure Timely (r : LineReader) (now wait : Nat) (answer : Reading) (took : Nat)
    (r' : LineReader) : Prop where
  answered : (∃ t ∈ r.source.answerTimes now, t ≤ now + wait) →
    IsLeast (r.source.answerTimes now) (now + took) ∧
      ∃ heard octets a rest, r.source.arrivals now = heard ++ (now + took, a) :: rest ∧
        Stream.Unfinished heard octets ∧ a.IsAnswer ∧ answer = a.reading (r.pending ++ octets) ∧
        (r'.source.arrivals (now + took) = rest ∨ a = .ending ∧ rest = [] ∧ r'.source = [])
  silent : (∀ t ∈ r.source.answerTimes now, now + wait < t) →
    answer = .ok none ∧ took = wait ∧
      ∃ heard octets, r.source.arrivals now = heard ++ r'.source.arrivals (now + wait) ∧
        Stream.Unfinished heard octets ∧ r'.closed = false ∧ r'.pending = r.pending ++ octets

/-- The time that reads take one after another. -/
def elapsed (r : LineReader) : List Nat → Nat
  | [] => 0
  | wait :: waits => (r.nextLine wait).2.1 + elapsed (r.nextLine wait).2.2 waits

variable {r r' : LineReader} {now wait took : Nat} {answer : Reading} {before s : Stream}
  {heard rest : List (Nat × Arrival)} {octets : List UInt8} {a : Arrival}
  {answers : List Reading} {waits : List Nat}

theorem Timely.of_answer (split : r.source.arrivals now = heard ++ (now + took, a) :: rest)
    (unfinished : Stream.Unfinished heard octets) (isAnswer : a.IsAnswer) (soon : took ≤ wait)
    (left : r'.source.arrivals (now + took) = rest ∨ a = .ending ∧ rest = [] ∧ r'.source = []) :
    Timely r now wait (a.reading (r.pending ++ octets)) took r' := by
  have least := Stream.isLeast_answerTimes split unfinished isAnswer
  refine ⟨fun _ => ⟨least, heard, octets, a, rest, split, unfinished, isAnswer, rfl, left⟩, ?_⟩
  intro late
  have := late _ least.1
  omega

theorem Timely.of_silence (split : r.source.arrivals now = heard ++ r'.source.arrivals (now + wait))
    (unfinished : Stream.Unfinished heard octets)
    (later : ∀ x ∈ r'.source.arrivals (now + wait), now + wait < x.1)
    (opened : r'.closed = false) (kept : r'.pending = r.pending ++ octets) :
    Timely r now wait (.ok none) wait r' := by
  refine ⟨?_, fun _ => ⟨rfl, rfl, heard, octets, split, unfinished, opened, kept⟩⟩
  rintro ⟨t, ⟨a, mem, isAnswer⟩, soon⟩
  rw [split] at mem
  rcases List.mem_append.mp mem with first | last
  · exact absurd isAnswer (unfinished.not_isAnswer first)
  · exact absurd (later _ last) (Nat.not_lt.mpr soon)

/-- At an end of file it makes no difference to the answer which read has obtained the octets. -/
theorem Timely.of_ending {after : Stream} (closed : Bool) (passed : before.Passed wait)
    (split : r.source = before ++ s) (ended : s.AtEnd after) :
    Timely r now wait (Arrival.ending.reading (r.pending ++ before.octets)) before.totalDelay
      ⟨after, [], closed⟩ := by
  obtain ⟨heard, arrivals, unfinished⟩ := passed.arrivals_append now s
  obtain ⟨rest, last, left⟩ := ended.arrivals (now + before.totalDelay)
  rw [← split, last] at arrivals
  refine .of_answer arrivals unfinished trivial passed.soon ?_
  rcases left with left | ⟨nothing, source⟩
  · exact .inl left
  · exact .inr ⟨rfl, nothing, source⟩

theorem Ended.timely (passed : before.Passed wait) (split : r.source = before ++ s)
    (h : Ended r wait before s (answer, took, r')) (now : Nat) :
    Timely r now wait answer took r' := by
  obtain ⟨heard, arrivals, unfinished⟩ := passed.arrivals_append now s
  rw [← split] at arrivals
  have soon := passed.soon
  cases h with
  | line hf back s =>
    have all := unfinished.append (.at_once (now + before.totalDelay) hf)
    rw [Stream.arrivals_line, ← List.append_assoc] at arrivals
    have timely : Timely r now wait _ _ ⟨s.putBack back, [], false⟩ :=
      .of_answer arrivals all rfl soon (.inl rfl)
    simpa [Arrival.reading] using timely
  | failed reason s =>
    exact .of_answer (a := .failure reason) arrivals unfinished trivial soon (.inl rfl)
  | finished ended obtained =>
    simpa [Arrival.reading, obtained] using Timely.of_ending false passed split ended
  | last ended idle kept =>
    simpa [Arrival.reading, idle, kept] using
      Timely.of_ending true passed split ended
  | closed ended idle nothing =>
    simpa [Arrival.reading, idle, nothing] using
      Timely.of_ending true passed split ended
  | @late ms late s =>
    -- What is left of the delay is over when the whole of it would have been.
    have same : now + before.totalDelay + ms = now + wait + (before.totalDelay + ms - wait) := by
      omega
    have left : Stream.arrivals (now + before.totalDelay) (.delay ms :: s) =
        Stream.arrivals (now + wait) (.delay (before.totalDelay + ms - wait) :: s) :=
      congrArg (fun time => Stream.arrivals time s) same
    rw [left] at arrivals
    refine .of_silence arrivals unfinished ?_ rfl rfl
    intro x hx
    have after : now + wait + (before.totalDelay + ms - wait) ≤ x.1 :=
      Stream.le_of_mem_arrivals (s := s) hx
    omega
  | hung s => exact .of_silence arrivals unfinished (by simp [Stream.arrivals]) rfl rfl

theorem nextLine_timely (opened : r.closed = false) (now : Nat)
    (h : r.nextLine wait = (answer, took, r')) : Timely r now wait answer took r' := by
  obtain ⟨before, s, split, passed, ended⟩ := nextLine_ended opened wait
  rw [h] at ended
  exact ended.timely passed split now

/-! ## Reads one after another -/

/-- What an open reader leaves to its next read is the end of what would have arrived. -/
theorem Timely.left (timely : Timely r now wait answer took r') :
    r'.source.arrivals (now + took) <:+ r.source.arrivals now := by
  by_cases soon : ∃ t ∈ r.source.answerTimes now, t ≤ now + wait
  · obtain ⟨-, heard, octets, a, rest, split, -, -, -, left | ⟨rfl, rfl, source⟩⟩ :=
      timely.answered soon
    · rw [split, left]
      exact (List.suffix_cons _ rest).trans (List.suffix_append heard _)
    · rw [split, source]
      exact List.suffix_append heard _
  · obtain ⟨-, rfl, heard, octets, split, -⟩ := timely.silent (by simpa using soon)
    rw [split]
    exact List.suffix_append heard _

theorem reads_left (r : LineReader) (now : Nat) (waits : List Nat) :
    (r.reads waits).2.source.arrivals (now + r.elapsed waits) <:+ r.source.arrivals now := by
  induction waits generalizing r now with
  | nil => exact List.suffix_refl _
  | cons wait waits ih =>
    rcases h : r.nextLine wait with ⟨answer, took, next⟩
    have later := ih next (now + took)
    simp only [reads, elapsed, h]
    rw [← Nat.add_assoc]
    refine later.trans ?_
    by_cases closed : r.closed = true
    · rw [nextLine, if_pos closed] at h
      cases h
      exact List.suffix_refl _
    · exact (nextLine_timely (by simpa using closed) now h).left

/-- Whatever reads come before it, a read of an open reader answers at the earliest time at which a
line feed, an end of file or a failure arrives, also when that is the end of its own time, and then
says what has arrived; if none arrives by then it gives nothing, at the end of its time. The reads
before it have not put off anything that is still to arrive. -/
theorem reads_timely (r : LineReader) (now : Nat) (waits : List Nat)
    (opened : (r.reads waits).2.closed = false) (wait : Nat) :
    (r.reads waits).2.source.arrivals (now + r.elapsed waits) <:+ r.source.arrivals now ∧
      ∃ answer took r', (r.reads waits).2.nextLine wait = (answer, took, r') ∧
        Timely (r.reads waits).2 (now + r.elapsed waits) wait answer took r' := by
  rcases h : (r.reads waits).2.nextLine wait with ⟨answer, took, r'⟩
  exact ⟨reads_left r now waits, answer, took, r', rfl, nextLine_timely opened _ h⟩

/-- A delay of nine goes on through a read that waits for four, and the line feed that comes at the
end of the next one's time is in time. -/
theorem reads_timely_tie :
    ∃ r, (ofStream [.bytes [0x61], .delay 9, .bytes [0x0A]]).reads [4] = ([.ok none], r) ∧
      IsLeast (r.source.answerTimes 4) 9 ∧
      r.nextLine 5 = (.ok (some "a"), 5, ⟨[], [], false⟩) := by
  obtain ⟨-, answer, took, r', hn, timely⟩ :=
    reads_timely (ofStream [.bytes [0x61], .delay 9, .bytes [0x0A]]) 0 [4] rfl 5
  cases hn
  have feed : 9 ∈ Stream.answerTimes 4 [.delay 5, .bytes [0x0A]] :=
    ⟨.octet lineFeed, by decide, rfl⟩
  exact ⟨_, rfl, (timely.answered ⟨9, feed, by decide⟩).1, rfl⟩

end LineReader

end GuestWatch
