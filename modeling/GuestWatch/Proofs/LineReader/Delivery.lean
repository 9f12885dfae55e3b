import GuestWatch.Proofs.LineReader.Conservation
import GuestWatch.Proofs.LineReader.Punctual

/-! # What the reads of octets and delays give

A stream on which nothing but octets and time goes by gives its lines, and then says that it is at
its end for as often as it is asked. Reads that may wait for all of its delays are never in vain.
-/
namespace GuestWatch

/-- What has been heard by an answer, unless nothing came in time. -/
def Reading.heard? : Reading → Option (Except Fault String)
  | .ok none => none
  | .ok (some line) => some (.ok line)
  | .error f => some (.error f)

theorem Reading.heard?_eq_none {answer : Reading} : answer.heard? = none ↔ answer = .ok none := by
  match answer with
  | .ok none => simp [heard?]
  | .ok (some line) => simp [heard?]
  | .error f => simp [heard?]

theorem Reading.eq_of_heard? {answer : Reading} {said : Except Fault String}
    (h : answer.heard? = some said) : answer = said.map some := by
  match answer, h with
  | .ok (some line), rfl => rfl
  | .error f, rfl => rfl

namespace Stream

variable {s : Stream} {data : List UInt8}

theorem Plain.putBack (plain : s.Plain) (data : List UInt8) : (s.putBack data).Plain := by
  cases data with
  | nil => exact plain
  | cons b data => exact plain.bytes_cons _

@[simp] theorem totalDelay_putBack (s : Stream) (data : List UInt8) :
    (s.putBack data).totalDelay = s.totalDelay := by cases data <;> rfl

/-- The account of octets and delays has nothing but lines. -/
theorem Plain.account (plain : s.Plain) {pending : List UInt8} (unfinished : lineFeed ∉ pending) :
    s.account pending = (linesOf (pending ++ s.octets)).map .ok := by
  induction s generalizing pending with
  | nil => simp [Stream.account, told, linesOf, octets]
  | cons e s ih =>
    obtain ⟨⟨data, rfl⟩ | ⟨ms, rfl⟩, plain'⟩ := List.forall_mem_cons.mp plain
    · have rest : lineFeed ∉ (finish pending data).2 := finish_rest unfinished
      rw [Stream.account, ih plain' rest, octets_bytes]
      simp [told, linesOf, pieces_finish unfinished]
    · rw [octets_delay]
      exact ih plain' unfinished

end Stream

namespace LineReader

variable {took wait : Nat} {s : Stream} {r r' : LineReader} {answer : Reading}
  {answers : List Reading} {waits : List Nat}
  {lines : List String}

/-- Lines, and then that there are no more, so many times. -/
def delivery (lines : List String) (n : Nat) : List (Except Fault String) :=
  lines.map .ok ++ List.replicate n (.error .streamClosed)

theorem delivery_prefix_succ (lines : List String) (n : Nat) :
    delivery lines n <+: delivery lines (n + 1) := by
  rw [delivery, delivery, List.replicate_succ', ← List.append_assoc]
  exact List.prefix_append _ _

/-- Whatever the waits are, what is heard are the lines that are left, in order, and then only that
there are no more. -/
theorem reads_heard (sound : r.Sound) (left : r.account = lines.map .ok)
    (h : r.reads waits = (answers, r')) :
    answers.filterMap Reading.heard? <+: delivery lines waits.length := by
  induction waits generalizing r answers lines with
  | nil =>
    cases h
    exact List.nil_prefix
  | cons wait waits ih =>
    obtain ⟨answer, took, next, later, hn, hw, rfl⟩ := reads_cons h
    have leaves := nextLine_leaves sound hn
    have account := leaves.account
    rw [left] at account
    rcases answer with f | _ | line
    · obtain rfl | ⟨reason, rfl⟩ := (nextLine_within hn).2 f rfl
      · have ended : next.account = [] := leaves.sound.account_closed (leaves.closed rfl)
        obtain rfl : lines = [] := List.map_eq_nil_iff.mp (account.trans ended)
        have rest : later.filterMap Reading.heard? <+: delivery [] waits.length :=
          ih leaves.sound ended hw
        exact (List.prefix_cons_inj _).mpr rest
      · obtain ⟨_, _, _, first, -⟩ := List.map_eq_cons_iff.mp account
        cases first
    · exact (ih leaves.sound account.symm hw).trans (delivery_prefix_succ lines _)
    · obtain ⟨line', rest, rfl, first, others⟩ := List.map_eq_cons_iff.mp account
      cases first
      have prefixed : .ok line :: later.filterMap Reading.heard? <+:
          .ok line :: delivery rest waits.length :=
        (List.prefix_cons_inj _).mpr (ih leaves.sound others.symm hw)
      exact prefixed.trans (delivery_prefix_succ (line :: rest) _)

/-! ## Reads that are long enough -/

/-- A read of octets and delays leaves such a stream, with no more delays than before. It gives
nothing only if they are longer than it may wait. -/
theorem nextLine_plain (plain : r.source.Plain) (h : r.nextLine wait = (answer, took, r')) :
    r'.source.Plain ∧ r'.source.totalDelay ≤ r.source.totalDelay ∧
      (answer = .ok none → wait < r.source.totalDelay) := by
  cases opened : r.closed with
  | true =>
    rw [nextLine_closed opened] at h
    cases h
    exact ⟨plain, Nat.le_refl _, by simp⟩
  | false =>
    obtain ⟨before, s, split, passed, ended⟩ := nextLine_ended opened wait
    have plain' : s.Plain := (List.forall_mem_append.mp (split ▸ plain)).2
    rw [h] at ended
    rw [split, Stream.totalDelay_append]
    cases ended with
    | line hf back s =>
      have later : Stream.Plain s := (List.forall_mem_cons.mp plain').2
      exact ⟨later.putBack back, by simp [Stream.totalDelay], by simp⟩
    | failed => exact absurd (plain' _ List.mem_cons_self) (by simp)
    | finished ended | last ended | closed ended =>
      obtain ⟨rfl, rfl⟩ := ended.eq_nil plain'.endless
      exact ⟨plain', Nat.le_add_left _ _, by simp⟩
    | late late s =>
      have later : Stream.Plain s := (List.forall_mem_cons.mp plain').2
      simp only [Stream.totalDelay]
      exact ⟨later.delay_cons _, by omega, by omega⟩
    | hung => exact absurd (plain' _ List.mem_cons_self) (by simp)

theorem reads_answered (plain : r.source.Plain) (long : ∀ wait ∈ waits, r.source.totalDelay ≤ wait)
    (h : r.reads waits = (answers, r')) :
    answers = (answers.filterMap Reading.heard?).map (·.map some) ∧
      answers.length = waits.length := by
  induction waits generalizing r answers with
  | nil =>
    cases h
    exact ⟨rfl, rfl⟩
  | cons wait waits ih =>
    obtain ⟨enough, others⟩ := List.forall_mem_cons.mp long
    obtain ⟨answer, took, next, later, hn, hw, rfl⟩ := reads_cons h
    obtain ⟨plain', delays, silent⟩ := nextLine_plain plain hn
    obtain ⟨same, length⟩ := ih plain' (fun w hwm => Nat.le_trans delays (others w hwm)) hw
    cases hs : answer.heard? with
    | none =>
      have := silent (Reading.heard?_eq_none.mp hs)
      omega
    | some said =>
      rw [List.filterMap_cons_some hs, List.map_cons, ← same, ← Reading.eq_of_heard? hs]
      exact ⟨rfl, congrArg (· + 1) length⟩

/-- Whatever the reads of octets and delays are told to wait, what they hear are the lines of all
octets, in order, and then that there are no more. Reads that may wait for all delays hear one of
these each. -/
theorem reads_deliver (plain : s.Plain) (waits : List Nat) :
    (((ofStream s).reads waits).1.filterMap Reading.heard? <+:
      delivery (linesOf s.octets) waits.length) ∧
    ((∀ wait ∈ waits, s.totalDelay ≤ wait) → ((ofStream s).reads waits).1 =
      ((delivery (linesOf s.octets) waits.length).take waits.length).map (·.map some)) := by
  have sound : (ofStream s).Sound := .ofStream plain.endless
  have left : (ofStream s).account = (linesOf s.octets).map .ok := plain.account List.not_mem_nil
  rcases h : (ofStream s).reads waits with ⟨answers, r⟩
  have heard := reads_heard sound left h
  refine ⟨heard, fun long => ?_⟩
  obtain ⟨same, length⟩ := reads_answered (r := ofStream s) plain long h
  rw [List.prefix_iff_eq_take] at heard
  have all : (answers.filterMap Reading.heard?).length = waits.length := by
    rw [← length]
    exact (List.length_map _).symm.trans (congrArg List.length same.symm)
  rw [all] at heard
  rw [same, ← heard]

end LineReader

end GuestWatch
