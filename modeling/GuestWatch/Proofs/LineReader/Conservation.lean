import GuestWatch.Proofs.LineReader.Reading

/-! # Reading loses nothing

A stream without an end of file before its end has one account: its lines and its failed reads,
each in its place. Whatever its reads are told to wait, what they have said so far and the account
of what they have left over make up that account. Octets of an unfinished line are kept by a read
that times out or fails, and a reader closes only when nothing is left over.
-/
namespace GuestWatch

/-! ## What a stream says -/

namespace Stream

/-- The reasons of all failed reads. -/
def failures (s : Stream) : List String :=
  s.filterMap fun e => match e with
    | .failure reason => some reason
    | _ => none

/-- Pieces as they are said. -/
def told (ps : List (List UInt8)) : List (Except Fault String) :=
  ps.map fun piece => .ok (pieceText piece)

/-- What a stream says after octets of an unfinished piece: lines and failed reads, in order. -/
def account (pending : List UInt8) : Stream → List (Except Fault String)
  | [] => told (pieces pending)
  | .bytes data :: s => told (finish pending data).1 ++ account (finish pending data).2 s
  | .failure reason :: s => .error (.readFailed reason) :: account pending s
  | .delay _ :: s | .ending :: s | .hang :: s => account pending s

variable {pending front back data : List UInt8} {s : Stream} {reason : String}
  {said rest : List (Except Fault String)}

theorem account_open (h : lineFeed ∉ data) :
    account pending (.bytes data :: s) = account (pending ++ data) s := by
  rw [account, finish_of_not_mem h]
  rfl

theorem account_line (h : lineFeed ∉ front) :
    account pending (.bytes (front ++ lineFeed :: back) :: s) =
      .ok (pieceText (pending ++ front)) :: account [] (s.putBack back) := by
  rw [account, finish_append_lineFeed h]
  cases back <;> rfl

/-- What a read goes over says nothing: its octets are kept. -/
theorem Passed.account_append {before : Stream} {wait : Nat} (h : before.Passed wait) :
    account pending (before ++ s) = account (pending ++ before.octets) s := by
  induction h using Passed.induction generalizing pending with
  | nil => simp [octets]
  | bytes hd passed ih => simp [account_open hd, ih]
  | delay soon passed ih => simpa [account] using ih

theorem account_end (unfinished : lineFeed ∉ pending) (hp : pending ≠ []) :
    account pending [] = [.ok (lineText pending)] := by
  simp [account, told, pieces_of_not_mem unfinished hp, lineText_of_not_mem unfinished]

@[simp] theorem lines_told (ps : List (List UInt8)) :
    (told ps).filterMap Except.toOption = ps.map pieceText := by
  induction ps with
  | nil => rfl
  | cons piece ps ih => simpa [told, Except.toOption] using ih

/-- The reason of a failed read. -/
def reason? : Except Fault String → Option String
  | .error (.readFailed reason) => some reason
  | _ => none

@[simp] theorem reasons_told (ps : List (List UInt8)) : (told ps).filterMap reason? = [] := by
  simp [told, reason?]

/-- The lines of an account are those of all octets together. -/
theorem lines_account (unfinished : lineFeed ∉ pending) (endless : Event.ending ∉ s) :
    (account pending s).filterMap Except.toOption = linesOf (pending ++ s.octets) := by
  induction s generalizing pending with
  | nil => simp [account, linesOf, octets]
  | cons e s ih =>
    have endless' : Event.ending ∉ s := List.not_mem_of_not_mem_cons endless
    cases e with
    | bytes data =>
      have rest : lineFeed ∉ (finish pending data).2 := finish_rest unfinished
      simp [account, ih rest endless', linesOf, pieces_finish unfinished]
    | delay ms => simpa [account] using ih unfinished endless'
    | failure reason =>
      rw [account, List.filterMap_cons_none rfl, octets_failure]
      exact ih unfinished endless'
    | ending => exact absurd List.mem_cons_self endless
    | hang => simpa [account] using ih unfinished endless'

theorem failures_account (pending : List UInt8) (s : Stream) :
    (account pending s).filterMap reason? = s.failures := by
  induction s generalizing pending with
  | nil => simp [account, failures]
  | cons e s ih => cases e <;> simp_all [account, failures, reason?]

/-- A failed read that comes after pieces comes after all of them. -/
theorem told_append_eq {ps : List (List UInt8)} {later : List (Except Fault String)} {f : Fault}
    (h : told ps ++ later = said ++ .error f :: rest) :
    ∃ more, said = told ps ++ more ∧ later = more ++ .error f :: rest := by
  induction ps generalizing said with
  | nil => exact ⟨said, rfl, h⟩
  | cons piece ps ih =>
    cases said with
    | nil => simp [told] at h
    | cons first said =>
      obtain ⟨rfl, h'⟩ := List.cons_eq_cons.mp h
      obtain ⟨more, rfl, hl⟩ := ih h'
      exact ⟨more, rfl, hl⟩

theorem length_finish (pending data : List UInt8) :
    (finish pending data).1.length = data.count lineFeed := by
  induction data generalizing pending with
  | nil => rfl
  | cons b data ih => by_cases hb : b = lineFeed <;> simp [finish, hb, ih]

/-- A failed read has its place in an account: after the failures that come before it, and after
as many lines as there are line feeds before it. -/
theorem account_at_failure (endless : Event.ending ∉ s)
    (h : account pending s = said ++ .error (.readFailed reason) :: rest) :
    ∃ before after, s = before ++ .failure reason :: after ∧
      said.filterMap reason? = failures before ∧
      (said.filterMap Except.toOption).length = (octets before).count lineFeed := by
  induction s generalizing pending said with
  | nil =>
    obtain ⟨more, -, hl⟩ := told_append_eq ((List.append_nil _).trans h)
    simp at hl
  | cons e s ih =>
    have endless' : Event.ending ∉ s := List.not_mem_of_not_mem_cons endless
    cases e with
    | bytes data =>
      obtain ⟨more, rfl, hl⟩ := told_append_eq h
      obtain ⟨before, after, rfl, hf, hn⟩ := ih endless' hl
      refine ⟨.bytes data :: before, after, rfl, ?_, ?_⟩
      · simpa [failures] using hf
      · simp [hn, length_finish, List.count_append]
    | delay ms =>
      obtain ⟨before, after, rfl, hf, hn⟩ := ih endless' h
      exact ⟨.delay ms :: before, after, rfl, by simpa [failures] using hf, by simpa using hn⟩
    | failure first =>
      cases said with
      | nil =>
        obtain ⟨hr, -⟩ := List.cons_eq_cons.mp h
        obtain rfl : first = reason := by simpa using hr
        exact ⟨[], s, rfl, rfl, rfl⟩
      | cons answer said =>
        obtain ⟨rfl, hl⟩ := List.cons_eq_cons.mp h
        obtain ⟨before, after, rfl, hf, hn⟩ := ih endless' hl
        refine ⟨.failure first :: before, after, rfl, ?_, ?_⟩
        · simpa [failures, reason?] using hf
        · rwa [List.filterMap_cons_none rfl, octets_failure]
    | ending => exact absurd List.mem_cons_self endless
    | hang =>
      obtain ⟨before, after, rfl, hf, hn⟩ := ih endless' h
      exact ⟨.hang :: before, after, rfl, by simpa [failures] using hf, by simpa using hn⟩

end Stream

/-! ## What reads say -/

namespace Reading

/-- What an answer says of the stream. That nothing came in time or that there is no more to come
is not counted. -/
def said? : Reading → Option (Except Fault String)
  | .ok none => none
  | .ok (some line) => some (.ok line)
  | .error .streamClosed => none
  | .error f => some (.error f)

/-- The lines among answers. -/
def lines (answers : List Reading) : List String :=
  (answers.filterMap said?).filterMap Except.toOption

/-- The reasons of the failed reads among answers. -/
def failures (answers : List Reading) : List String :=
  (answers.filterMap said?).filterMap Stream.reason?

end Reading

namespace LineReader

/-- What a reader still has to say. -/
def account (r : LineReader) : List (Except Fault String) := r.source.account r.pending

/-- Reads one after another, each told how long it may wait. -/
def reads (r : LineReader) : List Nat → List Reading × LineReader
  | [] => ([], r)
  | wait :: waits =>
    let (answer, _, next) := r.nextLine wait
    let (answers, last) := reads next waits
    (answer :: answers, last)

/-- What holds of a reader between calls. -/
structure Sound (r : LineReader) : Prop where
  endless : Event.ending ∉ r.source
  unfinished : lineFeed ∉ r.pending
  spent : r.closed = true → r.source = [] ∧ r.pending = []

/-- A reader that has taken octets off its source and kept them for later. -/
def Kept (r r' : LineReader) : Prop :=
  ∃ taken, r.source.octets = taken ++ r'.source.octets ∧ r'.pending = r.pending ++ taken

/-- What a call leaves: what it has said is off the account, and a call that finishes no line
keeps all that it takes. -/
structure Leaves (r : LineReader) (answer : Reading) (r' : LineReader) : Prop where
  sound : r'.Sound
  account : r.account = (Reading.said? answer).toList ++ r'.account
  kept : answer = .ok none ∨ (∃ reason, answer = .error (.readFailed reason)) → r.Kept r'
  closed : answer = .error .streamClosed → r'.closed = true

variable {took wait : Nat} {s s' before : Stream} {r r' : LineReader} {answer : Reading}
  {answers : List Reading} {waits : List Nat}

/-- Where no line is finished, all octets gone over are kept, and the others stay in the source. -/
theorem kept_of_split (split : r.source = before ++ s) (same : s'.octets = s.octets) :
    r.Kept ⟨s', r.pending ++ before.octets, false⟩ :=
  ⟨before.octets, by rw [split, Stream.octets_append, same], rfl⟩

theorem Ended.leaves (sound : r.Sound) (passed : before.Passed wait)
    (split : r.source = before ++ s) (h : Ended r wait before s (answer, took, r')) :
    r.Leaves answer r' := by
  obtain ⟨endless, unfinished, -⟩ := sound
  rw [split, List.mem_append, not_or] at endless
  have whole : lineFeed ∉ r.pending ++ before.octets := by simp [unfinished, passed.unfinished]
  have account : r.account = s.account (r.pending ++ before.octets) := by
    rw [LineReader.account, split, passed.account_append]
  cases h with
  | line hf back s =>
    have later : Event.ending ∉ s := List.not_mem_of_not_mem_cons endless.2
    rw [lineText_append_lineFeed (List.not_mem_append whole hf)]
    exact ⟨⟨Stream.not_mem_putBack later, List.not_mem_nil, by simp⟩,
      account.trans (Stream.account_line hf), by simp, by simp⟩
  | failed reason s =>
    have later : Event.ending ∉ s := List.not_mem_of_not_mem_cons endless.2
    exact ⟨⟨later, whole, by simp⟩, account, fun _ => kept_of_split split (by simp), by simp⟩
  | finished ended obtained =>
    obtain ⟨rfl, rfl⟩ := ended.eq_nil endless.2
    rw [Stream.account_end whole (by simp [obtained])] at account
    exact ⟨⟨List.not_mem_nil, List.not_mem_nil, by simp⟩, account, by simp, by simp⟩
  | last ended idle nonempty =>
    obtain ⟨rfl, rfl⟩ := ended.eq_nil endless.2
    rw [idle, List.append_nil, Stream.account_end unfinished nonempty] at account
    exact ⟨⟨List.not_mem_nil, List.not_mem_nil, fun _ => ⟨rfl, rfl⟩⟩, account, by simp, by simp⟩
  | closed ended idle nothing =>
    obtain ⟨rfl, rfl⟩ := ended.eq_nil endless.2
    rw [idle, nothing] at account
    exact ⟨⟨List.not_mem_nil, List.not_mem_nil, fun _ => ⟨rfl, rfl⟩⟩, account, by simp,
      fun _ => rfl⟩
  | late late s =>
    have later : Event.ending ∉ s := List.not_mem_of_not_mem_cons endless.2
    exact ⟨⟨by simp [later], whole, by simp⟩, account, fun _ => kept_of_split split (by simp),
      by simp⟩
  | hung s =>
    exact ⟨⟨endless.2, whole, by simp⟩, account, fun _ => kept_of_split split rfl, by simp⟩

theorem nextLine_leaves (sound : r.Sound) (h : r.nextLine wait = (answer, took, r')) :
    r.Leaves answer r' := by
  cases opened : r.closed with
  | true =>
    rw [nextLine_closed opened] at h
    cases h
    exact ⟨sound, rfl, by simp, fun _ => opened⟩
  | false =>
    obtain ⟨before, s, split, passed, ended⟩ := nextLine_ended opened wait
    rw [h] at ended
    exact ended.leaves sound passed split

theorem Sound.ofStream (endless : Event.ending ∉ s) : (ofStream s).Sound :=
  ⟨endless, List.not_mem_nil, by simp [LineReader.ofStream]⟩

/-- A reader that has closed has nothing left to say. -/
theorem Sound.account_closed (sound : r.Sound) (closed : r.closed = true) : r.account = [] := by
  obtain ⟨hs, hp⟩ := sound.spent closed
  rw [account, hs, hp]
  rfl

/-- The first of some reads, and the reads after it. -/
theorem reads_cons (h : r.reads (wait :: waits) = (answers, r')) :
    ∃ answer took next later, r.nextLine wait = (answer, took, next) ∧
      next.reads waits = (later, r') ∧ answers = answer :: later := by
  obtain ⟨rfl, rfl⟩ := Prod.mk.inj h
  exact ⟨_, _, _, _, rfl, rfl, rfl⟩

/-- What is said and what is left to say make up the account, whatever the waits are. -/
theorem reads_account (sound : r.Sound) (h : r.reads waits = (answers, r')) :
    r'.Sound ∧ r.account = answers.filterMap Reading.said? ++ r'.account := by
  induction waits generalizing r answers with
  | nil =>
    cases h
    exact ⟨sound, rfl⟩
  | cons wait waits ih =>
    obtain ⟨answer, took, next, later, hn, hw, rfl⟩ := reads_cons h
    have left := nextLine_leaves sound hn
    obtain ⟨sound', ha⟩ := ih left.sound hw
    refine ⟨sound', ?_⟩
    rw [left.account, ha, ← List.append_assoc]
    cases hs : Reading.said? answer <;> simp [hs]

/-- An answer among others is that of one call, made after the calls before it. -/
theorem reads_getElem? (h : r.reads waits = (answers, r')) {i : Nat}
    (hi : answers[i]? = some answer) :
    ∃ here wait took next, r.reads (waits.take i) = (answers.take i, here) ∧
      here.nextLine wait = (answer, took, next) := by
  induction waits generalizing r answers i with
  | nil =>
    cases h
    simp at hi
  | cons wait waits ih =>
    obtain ⟨first, took, next, later, hn, hw, rfl⟩ := reads_cons h
    cases i with
    | zero =>
      obtain rfl : first = answer := by simpa using hi
      exact ⟨r, wait, took, next, rfl, hn⟩
    | succ i =>
      obtain ⟨here, wait', took', next', hr, ha⟩ := ih hw (by simpa using hi)
      exact ⟨here, wait', took', next', by simp [reads, hn, hr], ha⟩

/-- Whatever the reads of a stream are told to wait: the lines given and the lines of what is left
over are the lines of all octets, in order, and so it is with failed reads. A failed read is given
after as many lines as there are line feeds before it. When the stream is found closed everything
has been given. No unfinished line has a line feed, and the next call keeps its octets unless it
gives a line or closes. -/
theorem reads_conserve (endless : Event.ending ∉ s) (waits : List Nat) :
    ∃ answers r, (ofStream s).reads waits = (answers, r) ∧
      linesOf s.octets = Reading.lines answers ++ linesOf (r.pending ++ r.source.octets) ∧
      s.failures = Reading.failures answers ++ r.source.failures ∧
      (∀ i reason, answers[i]? = some (.error (.readFailed reason)) →
        ∃ before after, s = before ++ .failure reason :: after ∧
          Reading.failures (answers.take i) = Stream.failures before ∧
          (Reading.lines (answers.take i)).length = (Stream.octets before).count lineFeed) ∧
      (∀ i, answers[i]? = some (.error .streamClosed) →
        Reading.lines (answers.take i) = linesOf s.octets ∧
          Reading.failures (answers.take i) = s.failures) ∧
      lineFeed ∉ r.pending ∧
      ∀ wait answer took r', r.nextLine wait = (answer, took, r') →
        answer = .ok none ∨ (∃ reason, answer = .error (.readFailed reason)) → r.Kept r' := by
  have sound : (ofStream s).Sound := .ofStream endless
  have lines : ((ofStream s).account).filterMap Except.toOption = linesOf s.octets :=
    Stream.lines_account List.not_mem_nil endless
  have failures : ((ofStream s).account).filterMap Stream.reason? = s.failures :=
    Stream.failures_account [] s
  rcases h : (ofStream s).reads waits with ⟨answers, r⟩
  obtain ⟨sound', ha⟩ := reads_account sound h
  refine ⟨answers, r, rfl, ?_, ?_, ?_, ?_, sound'.unfinished, ?_⟩
  · rw [← lines, ha, List.filterMap_append, Reading.lines, account,
      Stream.lines_account sound'.unfinished sound'.endless]
  · rw [← failures, ha, List.filterMap_append, Reading.failures, account,
      Stream.failures_account]
  · intro i reason hi
    obtain ⟨here, wait, took, next, hr, hn⟩ := reads_getElem? h hi
    obtain ⟨soundHere, hb⟩ := reads_account sound hr
    rw [(nextLine_leaves soundHere hn).account] at hb
    exact Stream.account_at_failure endless hb
  · intro i hi
    obtain ⟨here, wait, took, next, hr, hn⟩ := reads_getElem? h hi
    obtain ⟨soundHere, hb⟩ := reads_account sound hr
    have left := nextLine_leaves soundHere hn
    have nothingLeft : here.account = [] :=
      left.account.trans (left.sound.account_closed (left.closed rfl))
    rw [nothingLeft, List.append_nil] at hb
    exact ⟨by rw [← lines, hb, Reading.lines], by rw [← failures, hb, Reading.failures]⟩
  · intro wait answer took r' hn
    exact (nextLine_leaves sound' hn).kept

/-- A failed read between the two octets of a character, and a wait that is too short. -/
theorem reads_conserve_split :
    ∃ r, (ofStream [.bytes [0x61, 0x0A, 0x62, 0xC3], .failure "gone", .delay 5,
        .bytes [0xA9, 0x0A]]).reads [0, 0, 3, 2, 0] =
          ([.ok (some "a"), .error (.readFailed "gone"), .ok none, .ok (some "bé"),
            .error .streamClosed], r) ∧
      linesOf [0x61, 0x0A, 0x62, 0xC3, 0xA9, 0x0A] = ["a", "bé"] ∧ lineFeed ∉ r.pending := by
  have endless : Event.ending ∉ [.bytes [0x61, 0x0A, 0x62, 0xC3], .failure "gone", .delay 5,
      .bytes [0xA9, 0x0A]] := by simp
  obtain ⟨answers, r, h, -, -, -, closed, unfinished, -⟩ := reads_conserve endless [0, 0, 3, 2, 0]
  obtain rfl : answers = [.ok (some "a"), .error (.readFailed "gone"), .ok none, .ok (some "bé"),
      .error .streamClosed] := (congrArg Prod.fst h).symm
  obtain ⟨lines, -⟩ := closed 4 rfl
  exact ⟨r, h, lines.symm, unfinished⟩

end LineReader

end GuestWatch
