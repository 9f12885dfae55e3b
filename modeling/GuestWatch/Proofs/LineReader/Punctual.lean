import GuestWatch.Proofs.LineReader.Reading
import GuestWatch.Proofs.Run.Schedule
import GuestWatch.Script

/-! # Readers are punctual

A stream without an end of file before its end has a schedule: each of its lines at the time of its
last octet, then its first failure or its end. A reader keeps that schedule, whatever its reads are
told to wait. Octets of an unfinished line are kept from read to read, and delays go on where a
read has left off.
-/
namespace GuestWatch

variable {σ : Type}

namespace LineReader

/-- Pieces said at one time. -/
def said (now : Nat) (ps : List (List UInt8)) : Schedule :=
  ps.map fun piece => (now, .ok (pieceText piece))

/-- What is said at the end of a stream: the unfinished piece, if there is anything in it, and that
this is the end. -/
def closing (now : Nat) (pending : List UInt8) : Schedule :=
  said now (pieces pending) ++ [(now, .error .streamClosed)]

/-- What a stream says from a time on, if it comes after octets of an unfinished piece. -/
def schedule (now : Nat) (pending : List UInt8) : Stream → Schedule
  | [] => closing now pending
  | .bytes data :: s =>
    said now (finish pending data).1 ++ schedule now (finish pending data).2 s
  | .delay ms :: s => schedule (now + ms) pending s
  | .failure reason :: _ => [(now, .error (.readFailed reason))]
  | .ending :: _ => closing now pending
  | .hang :: _ => []

/-- Where a reader stands on a schedule at a time. -/
inductive OnSchedule (now : Nat) : LineReader → Schedule → Prop
  | reading {s : Stream} {pending : List UInt8} (endless : Event.ending ∉ s)
    (unfinished : lineFeed ∉ pending) : OnSchedule now ⟨s, pending, false⟩ (schedule now pending s)
  | closed {s : Stream} {pending : List UInt8} :
    OnSchedule now ⟨s, pending, true⟩ [(now, .error .streamClosed)]

variable {now ms wait took : Nat} {pending front back data : List UInt8} {s : Stream}
  {r r' : LineReader} {answer : Reading} {sch : Schedule}

theorem eq_of_mem_said {ps : List (List UInt8)} {entry : Nat × Except Fault String}
    (h : entry ∈ said now ps) : entry.1 = now := by
  obtain ⟨piece, -, rfl⟩ := List.mem_map.mp h
  rfl

theorem eq_of_mem_closing {entry : Nat × Except Fault String}
    (h : entry ∈ closing now pending) : entry.1 = now := by
  obtain h | h := List.mem_append.mp h
  · exact eq_of_mem_said h
  · rw [List.mem_singleton.mp h]

/-- Nothing on a schedule is in the past. -/
theorem le_of_mem_schedule {entry : Nat × Except Fault String}
    (h : entry ∈ schedule now pending s) : now ≤ entry.1 := by
  induction s generalizing now pending with
  | nil => exact Nat.le_of_eq (eq_of_mem_closing h).symm
  | cons e s ih =>
    cases e with
    | bytes data =>
      obtain h | h := List.mem_append.mp h
      · exact Nat.le_of_eq (eq_of_mem_said h).symm
      · exact ih h
    | delay ms => exact Nat.le_trans (Nat.le_add_right now ms) (ih h)
    | failure reason =>
      obtain rfl := List.mem_singleton.mp h
      exact Nat.le_refl now
    | ending => exact Nat.le_of_eq (eq_of_mem_closing h).symm
    | hang => cases h

theorem schedule_putBack (now : Nat) (s : Stream) (back : List UInt8) :
    schedule now [] (Stream.putBack s back) =
      said now (finish [] back).1 ++ schedule now (finish [] back).2 s := by
  cases back <;> rfl

theorem schedule_line (hf : lineFeed ∉ front) :
    schedule now pending (.bytes (front ++ lineFeed :: back) :: s) =
      (now, .ok (pieceText (pending ++ front))) :: schedule now [] (Stream.putBack s back) := by
  rw [schedule, finish_append_lineFeed hf, schedule_putBack]
  rfl

theorem schedule_open (h : lineFeed ∉ data) :
    schedule now pending (.bytes data :: s) = schedule now (pending ++ data) s := by
  rw [schedule, finish_of_not_mem h]
  rfl

/-- What a read goes over has no place on a schedule of its own: its octets are kept, and its delays
let time go by. -/
theorem schedule_append {before : Stream} (h : before.Passed wait) :
    schedule now pending (before ++ s) =
      schedule (now + before.totalDelay) (pending ++ before.octets) s := by
  induction h using Stream.Passed.induction generalizing now pending with
  | nil => simp [Stream.octets, Stream.totalDelay]
  | bytes hd passed ih => simp [schedule_open hd, ih, Stream.totalDelay]
  | delay soon passed ih => simp [schedule, ih, Stream.totalDelay, Nat.add_assoc]

/-- Octets that are kept at the end of a stream are a last line, unless there are none. -/
theorem schedule_end (unfinished : lineFeed ∉ pending) (hp : pending ≠ []) :
    schedule now pending [] = [(now, .ok (lineText pending)), (now, .error .streamClosed)] := by
  simp [schedule, closing, said, pieces_of_not_mem unfinished hp, lineText_of_not_mem unfinished]

/-- A read keeps the schedule of its source: `now + before.totalDelay` is the time of what ends
it. -/
theorem Ended.serves {before : Stream} (endless : Event.ending ∉ r.source)
    (unfinished : lineFeed ∉ r.pending) (passed : before.Passed wait)
    (split : r.source = before ++ s) (h : Ended r wait before s (answer, took, r')) :
    (schedule now r.pending r.source).Serves OnSchedule now wait answer took r' := by
  have soon := passed.soon
  have whole : lineFeed ∉ r.pending ++ before.octets := by simp [unfinished, passed.unfinished]
  rw [split, List.mem_append, not_or] at endless
  rw [split, schedule_append passed]
  cases h with
  | line hf back s =>
    have later : Event.ending ∉ s := List.not_mem_of_not_mem_cons endless.2
    rw [schedule_line hf, lineText_append_lineFeed (List.not_mem_append whole hf)]
    exact .line soon (.reading (Stream.not_mem_putBack later) List.not_mem_nil)
  | failed => exact .fault soon
  | finished ended obtained =>
    obtain ⟨rfl, rfl⟩ := ended.eq_nil endless.2
    rw [schedule_end whole (by simp [obtained])]
    exact .line soon (.reading List.not_mem_nil List.not_mem_nil)
  | last ended idle nonempty =>
    obtain ⟨rfl, rfl⟩ := ended.eq_nil endless.2
    rw [idle, List.append_nil, schedule_end unfinished nonempty]
    exact .line soon .closed
  | closed ended idle nothing =>
    obtain ⟨rfl, rfl⟩ := ended.eq_nil endless.2
    rw [idle, nothing]
    exact .fault soon
  | @late ms late s =>
    have later : Event.ending ∉ s := List.not_mem_of_not_mem_cons endless.2
    -- What is left of the delay is over when the whole of it would have been.
    have same : now + before.totalDelay + ms = now + wait + (before.totalDelay + ms - wait) := by
      omega
    rw [schedule, same]
    refine .silence (fun entry he => ?_) (.reading (by simp [later]) whole)
    have := le_of_mem_schedule (List.mem_of_mem_head? he)
    omega
  | hung s => exact .silence (by simp [schedule]) (.reading endless.2 whole)

theorem nextLine_serves (on : OnSchedule now r sch)
    (h : r.nextLine wait = (answer, took, r')) :
    sch.Serves OnSchedule now wait answer took r' := by
  cases on with
  | @reading s pending endless unfinished =>
    obtain ⟨before, rest, split, passed, ended⟩ :=
      nextLine_ended (r := ⟨s, pending, false⟩) rfl wait
    rw [h] at ended
    exact ended.serves endless unfinished passed split
  | closed =>
    cases h
    exact .fault (Nat.zero_le _)

end LineReader

theorem Playback.operations_keeps {read : σ → Nat → Reading × Nat × σ}
    {On : Nat → σ → Schedule → Prop}
    (h : ∀ {now wait took s s' sch answer}, On now s sch → read s wait = (answer, took, s') →
      Schedule.Serves On now wait sch answer took s') :
    (operations read).Keeps (fun now s sch => On now s.source sch) := by
  intro now wait took s s' sch answer on hs
  cases h on (operations_read hs) with
  | line soon on => exact .line soon on
  | fault soon => exact .fault soon
  | silence later on => exact .silence later on

theorem LineReader.keeps : (Playback.operations LineReader.nextLine).Keeps
    (fun now s sch => LineReader.OnSchedule now s.source sch) :=
  Playback.operations_keeps LineReader.nextLine_serves

/-! ## Streams of octets and delays -/

namespace LineReader

variable {now : Nat} {pending : List UInt8} {s : Stream}

theorem answers_said (ps : List (List UInt8)) :
    (said now ps).map Prod.snd = (ps.map pieceText).map .ok := by
  simp [said]

/-- A schedule begins with the lines that its first octets finish, while those octets come, and goes
on with the piece that they leave unfinished. -/
theorem schedule_front (now : Nat) (pending : List UInt8) (plain : s.Plain) (rest : Stream) :
    ∃ front, schedule now pending (s ++ rest) =
        front ++ schedule (now + s.totalDelay) (finish pending s.octets).2 rest ∧
      front.map Prod.snd = ((finish pending s.octets).1.map pieceText).map .ok ∧
      ∀ entry ∈ front, entry.1 ≤ now + s.totalDelay := by
  induction s generalizing now pending with
  | nil => exact ⟨[], rfl, rfl, by simp⟩
  | cons e s ih =>
    obtain ⟨⟨data, rfl⟩ | ⟨ms, rfl⟩, plain'⟩ := List.forall_mem_cons.mp plain
    · obtain ⟨front, split, lines, times⟩ := ih now (finish pending data).2 plain'
      refine ⟨said now (finish pending data).1 ++ front, ?_, ?_, ?_⟩
      · rw [List.cons_append, schedule, split, Stream.octets_bytes, finish_append,
          List.append_assoc, Stream.totalDelay_bytes]
      · rw [List.map_append, answers_said, lines, Stream.octets_bytes, finish_append,
          List.map_append, List.map_append]
      · intro entry he
        obtain he | he := List.mem_append.mp he
        · rw [eq_of_mem_said he]
          exact Nat.le_add_right _ _
        · exact times entry he
    · obtain ⟨front, split, lines, times⟩ := ih (now + ms) pending plain'
      refine ⟨front, ?_, ?_, ?_⟩
      · rw [List.cons_append, schedule, split, Stream.octets_delay, Stream.totalDelay_delay,
          Nat.add_assoc]
      · rw [lines, Stream.octets_delay]
      · intro entry he
        have := times entry he
        rw [Stream.totalDelay_delay]
        omega

/-- A schedule has the lines of all octets together, however they came. -/
theorem answers_schedule (plain : s.Plain) (unfinished : lineFeed ∉ pending) :
    (schedule now pending s).map Prod.snd =
      (linesOf (pending ++ s.octets)).map .ok ++ [.error .streamClosed] := by
  obtain ⟨front, split, lines, -⟩ := schedule_front now pending plain []
  rw [List.append_nil] at split
  rw [split, List.map_append, lines, linesOf_finish unfinished]
  simp [schedule, closing, answers_said, linesOf]

/-- A schedule is over when all delays are. -/
theorem schedule_le (plain : s.Plain) {entry : Nat × Except Fault String}
    (h : entry ∈ schedule now pending s) : entry.1 ≤ now + s.totalDelay := by
  obtain ⟨front, split, -, times⟩ := schedule_front now pending plain []
  rw [List.append_nil] at split
  rw [split] at h
  obtain h | h := List.mem_append.mp h
  · exact times entry h
  · exact Nat.le_of_eq (eq_of_mem_closing h)

end LineReader

end GuestWatch
