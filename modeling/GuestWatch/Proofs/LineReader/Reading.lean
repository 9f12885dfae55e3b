import GuestWatch.Proofs.LineReader.Progress

/-! # One read of a stream

A read goes on until a line is finished, the source fails or ends, or the time is up. What it gives
is paid for by its source: a line takes away at least one octet or the end of the stream, and a
read that gives nothing has waited for as long as it was told to.
-/
namespace GuestWatch

namespace Stream

@[simp] theorem answers_bytes (data : List UInt8) (s : Stream) :
    answers (.bytes data :: s) = data.length + 1 + s.answers := by
  simp [answers, octets]
  omega

@[simp] theorem answers_append (s rest : Stream) :
    answers (s ++ rest) = s.answers + rest.answers := by
  simp [answers]
  omega

theorem answers_cons (e : Event) (s : Stream) : s.answers + 1 ≤ answers (e :: s) := by
  simp [answers, octets]
  omega

theorem answers_putBack (s : Stream) (data : List UInt8) :
    (s.putBack data).answers ≤ data.length + 1 + s.answers := by
  cases data <;> simp [putBack]

theorem answers_pos {s : Stream} (h : s.octets ≠ []) : 0 < s.answers := by
  have := List.length_pos_iff.mpr h
  rw [answers]
  omega

theorem AtEnd.answers_le {s after : Stream} (h : s.AtEnd after) : after.answers ≤ s.answers := by
  cases h with
  | ending =>
    have := answers_cons .ending after
    omega
  | done => exact Nat.le_refl _

end Stream

namespace LineReader

variable {took wait : Nat} {r r' : LineReader}

/-- How often a reader can still answer: one that is not closed can also say that it closes. -/
def rank (r : LineReader) : Nat := r.source.answers + if r.closed then 0 else 1

@[simp] theorem rank_opened (s : Stream) (pending : List UInt8) :
    rank ⟨s, pending, false⟩ = s.answers + 1 := rfl

@[simp] theorem rank_closed (s : Stream) (pending : List UInt8) :
    rank ⟨s, pending, true⟩ = s.answers := rfl

theorem rank_le_answers (r : LineReader) : r.rank ≤ r.answers := by
  simp only [rank, answers]
  split <;> omega

/-- A read either gives a line for something that it uses up or waits to its end. -/
theorem nextLine_uses {answer : Option String} (h : r.nextLine wait = (.ok answer, took, r')) :
    r'.rank < r.rank ∨ answer = none ∧ r'.rank ≤ r.rank ∧ wait ≤ took := by
  cases opened : r.closed with
  | true => simp [nextLine_closed opened] at h
  | false =>
    obtain ⟨before, s, split, -, ended⟩ := nextLine_ended opened wait
    have whole : r.rank = before.answers + s.answers + 1 := by simp [rank, opened, split]
    rw [h] at ended
    rw [whole]
    cases ended with
    | line hf back s =>
      have := s.answers_putBack back
      left
      simp only [rank_opened, Stream.answers_bytes, List.length_append, List.length_cons]
      omega
    | finished ended obtained =>
      have := ended.answers_le
      have := Stream.answers_pos obtained
      left
      rw [rank_opened]
      omega
    | last ended idle kept =>
      have := ended.answers_le
      left
      rw [rank_closed]
      omega
    | late late s => exact .inr ⟨rfl, by simp [Stream.answers], Nat.le_refl _⟩
    | hung s => exact .inr ⟨rfl, by simp, Nat.le_refl _⟩

/-- The faults that a stream can give. -/
def IsFault (f : Fault) : Prop := f = .streamClosed ∨ ∃ reason, f = .readFailed reason

/-- A read takes no longer than it may and gives no fault but those of a stream. -/
theorem nextLine_within {answer : Reading} (h : r.nextLine wait = (answer, took, r')) :
    took ≤ wait ∧ ∀ f, answer = .error f → IsFault f := by
  cases opened : r.closed with
  | true =>
    rw [nextLine_closed opened] at h
    cases h
    exact ⟨Nat.zero_le _, by simp [IsFault]⟩
  | false =>
    obtain ⟨before, s, split, passed, ended⟩ := nextLine_ended opened wait
    have soon := passed.soon
    rw [h] at ended
    cases ended with
    | line | finished | last => exact ⟨soon, by simp⟩
    | failed | closed => exact ⟨soon, by simp [IsFault]⟩
    | late | hung => exact ⟨Nat.le_refl _, by simp⟩

end LineReader

end GuestWatch
