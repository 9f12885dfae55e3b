import GuestWatch.Proofs.LineReader.Delivery
import GuestWatch.Proofs.Run.Streams
import GuestWatch.Proofs.Text.Encoded
import GuestWatch.Proofs.Text.Stripped

/-! # Line endings

Lines may be ended by a line feed, by a carriage return before it, or by one after it. The first two
are read alike. In the third each carriage return is read with the line that follows, where it is
taken off; the last of them is left over at the end of the stream and is read as an empty line. An
empty line decides nothing, so that runs over the three have the same verdict.
-/
namespace GuestWatch

/-- How a line is ended. -/
inductive LineEnding
  | feed
  | returnFeed
  | feedReturn
deriving DecidableEq, Repr

def carriageReturn : UInt8 := 0x0D

namespace LineEnding

def octets : LineEnding → List UInt8
  | .feed => [lineFeed]
  | .returnFeed => [carriageReturn, lineFeed]
  | .feedReturn => [lineFeed, carriageReturn]

/-- Lines as octets, each with its ending. -/
def written (e : LineEnding) (lines : List String) : List UInt8 :=
  lines.flatMap fun line => Text.Utf8.encode line ++ e.octets

/-- The lines that are read of lines that have been written. -/
def received (e : LineEnding) (lines : List String) : List String :=
  if e = .feedReturn ∧ lines ≠ [] then lines ++ [""] else lines

end LineEnding

/-- A text that can be a line: no line feed is in it, and no carriage return at its ends. -/
structure IsLine (line : String) : Prop where
  unbroken : '\n' ∉ line.toList
  first : line.toList.head? ≠ some '\r'
  last : line.toList.getLast? ≠ some '\r'

instance (line : String) : Decidable (IsLine line) :=
  decidable_of_iff
    ('\n' ∉ line.toList ∧ line.toList.head? ≠ some '\r' ∧ line.toList.getLast? ≠ some '\r')
    ⟨fun ⟨unbroken, first, last⟩ => ⟨unbroken, first, last⟩,
      fun ⟨unbroken, first, last⟩ => ⟨unbroken, first, last⟩⟩

/-! ## Carriage returns around a line -/

namespace IsLine

variable {line : String}

theorem lineFeed_not_mem (h : IsLine line) : lineFeed ∉ Text.Utf8.encode line :=
  fun hm => h.unbroken (Text.Utf8.lineFeed_mem_encodeChars.mp hm)

theorem strip_toList (h : IsLine line) : Text.strip (· == '\r') line.toList = line.toList := by
  refine Text.strip_of_ends (fun c hc => ?_) (fun c hc => ?_)
  · exact beq_eq_false_iff_ne.mpr fun hr => h.first (hr ▸ hc)
  · exact beq_eq_false_iff_ne.mpr fun hr => h.last (hr ▸ hc)

end IsLine

theorem pieceText_encodeChars (cs : List Char) :
    pieceText (Text.Utf8.encodeChars cs) = String.ofList (Text.strip (· == '\r') cs) := by
  rw [pieceText, Text.Utf8.decodeChars_encodeChars]

theorem encodeChars_return : Text.Utf8.encodeChars ['\r'] = [carriageReturn] := by decide

namespace IsLine

variable {line : String}

theorem pieceText_encode (h : IsLine line) : pieceText (Text.Utf8.encode line) = line := by
  rw [Text.Utf8.encode, pieceText_encodeChars, h.strip_toList, String.ofList_toList]

theorem pieceText_return_after (h : IsLine line) :
    pieceText (Text.Utf8.encode line ++ [carriageReturn]) = line := by
  rw [Text.Utf8.encode, ← encodeChars_return, ← Text.Utf8.encodeChars_append,
    pieceText_encodeChars, Text.strip_append_singleton rfl, h.strip_toList, String.ofList_toList]

theorem pieceText_return_before (h : IsLine line) :
    pieceText (carriageReturn :: Text.Utf8.encode line) = line := by
  rw [← List.singleton_append, Text.Utf8.encode, ← encodeChars_return,
    ← Text.Utf8.encodeChars_append, pieceText_encodeChars, List.singleton_append,
    Text.strip_cons rfl, h.strip_toList, String.ofList_toList]

end IsLine

/-! ## Lines with their endings -/

theorem return_ne_lineFeed : lineFeed ≠ carriageReturn := by decide

theorem linesOf_return : linesOf [carriageReturn] = [""] := by decide

namespace LineEnding

variable {lines : List String}

theorem linesOf_feed (h : ∀ line ∈ lines, IsLine line) : linesOf (feed.written lines) = lines := by
  induction lines with
  | nil => rfl
  | cons line lines ih =>
    obtain ⟨first, rest⟩ := List.forall_mem_cons.mp h
    have cut : feed.written (line :: lines) =
        Text.Utf8.encode line ++ lineFeed :: feed.written lines := by simp [written, octets]
    rw [cut, linesOf_append_lineFeed first.lineFeed_not_mem, first.pieceText_encode, ih rest]

theorem linesOf_returnFeed (h : ∀ line ∈ lines, IsLine line) :
    linesOf (returnFeed.written lines) = lines := by
  induction lines with
  | nil => rfl
  | cons line lines ih =>
    obtain ⟨first, rest⟩ := List.forall_mem_cons.mp h
    have cut : returnFeed.written (line :: lines) =
        (Text.Utf8.encode line ++ [carriageReturn]) ++ lineFeed :: returnFeed.written lines := by
      simp [written, octets]
    have unbroken : lineFeed ∉ Text.Utf8.encode line ++ [carriageReturn] := by
      simp [first.lineFeed_not_mem, return_ne_lineFeed]
    rw [cut, linesOf_append_lineFeed unbroken, first.pieceText_return_after, ih rest]

/-- Behind a carriage return that is left over from the line before, every line is read as it is,
and then one more that is empty. -/
theorem linesOf_feedReturn_after (h : ∀ line ∈ lines, IsLine line) :
    linesOf (carriageReturn :: feedReturn.written lines) = lines ++ [""] := by
  induction lines with
  | nil => exact linesOf_return
  | cons line lines ih =>
    obtain ⟨first, rest⟩ := List.forall_mem_cons.mp h
    have cut : carriageReturn :: feedReturn.written (line :: lines) =
        (carriageReturn :: Text.Utf8.encode line) ++
          lineFeed :: carriageReturn :: feedReturn.written lines := by simp [written, octets]
    have unbroken : lineFeed ∉ carriageReturn :: Text.Utf8.encode line := by
      simp [first.lineFeed_not_mem, return_ne_lineFeed]
    rw [cut, linesOf_append_lineFeed unbroken, first.pieceText_return_before, ih rest]
    rfl

theorem linesOf_feedReturn (h : ∀ line ∈ lines, IsLine line) :
    linesOf (feedReturn.written lines) = feedReturn.received lines := by
  cases lines with
  | nil => rfl
  | cons line lines =>
    obtain ⟨first, rest⟩ := List.forall_mem_cons.mp h
    have cut : feedReturn.written (line :: lines) =
        Text.Utf8.encode line ++ lineFeed :: carriageReturn :: feedReturn.written lines := by
      simp [written, octets]
    rw [cut, linesOf_append_lineFeed first.lineFeed_not_mem, first.pieceText_encode,
      linesOf_feedReturn_after rest]
    simp [received]

theorem linesOf_written (e : LineEnding) (h : ∀ line ∈ lines, IsLine line) :
    linesOf (e.written lines) = e.received lines := by
  cases e with
  | feed => simpa [received] using linesOf_feed h
  | returnFeed => simpa [received] using linesOf_returnFeed h
  | feedReturn => exact linesOf_feedReturn h

end LineEnding

/-! ## Verdicts on lines with their endings -/

namespace Markers

variable {m : Markers} {lines : List String}

@[simp] theorem classify_empty (m : Markers) : m.classify "" = none := rfl

/-- Lines behind one that decides are not heard. -/
theorem judge_append_of_decided (h : ∃ line ∈ lines, m.classify line ≠ none)
    (more : List String) : m.judge (lines ++ more) = m.judge lines := by
  induction lines with
  | nil => simp at h
  | cons line lines ih =>
    cases hv : m.classify line with
    | some v => simp [judge, hv]
    | none =>
      have later : ∃ line ∈ lines, m.classify line ≠ none := by simpa [hv] using h
      simp [judge, hv, ih later]

theorem judge_received_of_decided (h : ∃ line ∈ lines, m.classify line ≠ none) (e : LineEnding) :
    m.judge (e.received lines) = m.judge lines := by
  rw [LineEnding.received]
  split
  · exact judge_append_of_decided h _
  · rfl

theorem judge_received_of_none (h : ∀ line ∈ lines, m.classify line = none) (e : LineEnding) :
    m.judge (e.received lines) = (e.received lines, .fault .streamClosed) := by
  refine judge_of_none fun line hl => ?_
  rw [LineEnding.received] at hl
  split at hl
  · obtain hl | hl := List.mem_append.mp hl
    · exact h line hl
    · rw [List.mem_singleton.mp hl, classify_empty]
  · exact h line hl

theorem judge_received_snd (e : LineEnding) :
    (m.judge (e.received lines)).2 = (m.judge lines).2 := by
  by_cases h : ∀ line ∈ lines, m.classify line = none
  · rw [judge_received_of_none h, judge_of_none h]
  · rw [judge_received_of_decided (by simpa using h)]

end Markers

namespace Run

/-- The output of a run over lines with their endings is what is heard of the lines received. Its
verdict is that of the lines. -/
theorem received_judged {p : Plan} (never : p.cancelAt = none) {s : Stream} (plain : s.Plain)
    (soon : s.totalDelay < p.timeoutMs) (guest : String) {lines : List String} {e : LineEnding}
    (received : linesOf s.octets = e.received lines) :
    (p.scheduled guest (LineReader.schedule 0 [] s)).output =
        (p.markers.judge (e.received lines)).1 ∧
      (p.scheduled guest (LineReader.schedule 0 [] s)).status =
        (p.markers.judge lines).2.status ∧
      (p.scheduled guest (LineReader.schedule 0 [] s)).message =
        (p.markers.judge lines).2.message := by
  rw [← Markers.judge_received_snd e]
  exact scheduled_judged never plain soon guest (by rw [received])

/-- Lines that are written with the three endings, in chunks of any lengths and at any times. The
reader delivers them and then says that there are no more; where carriage returns come last, it
delivers an empty line before it says so. Runs over them that are not cut off by the deadline have
the same status and message, and if a line decides also the same output. If none does, the output
are the lines that have been delivered. -/
theorem line_endings_judged {lines : List String} (are : ∀ line ∈ lines, IsLine line)
    {s : LineEnding → Stream} (plain : ∀ e, (s e).Plain)
    (octets : ∀ e, (s e).octets = e.written lines) :
    (∀ e waits,
      (((LineReader.ofStream (s e)).reads waits).1.filterMap Reading.heard? <+:
        LineReader.delivery (e.received lines) waits.length) ∧
      ((∀ wait ∈ waits, (s e).totalDelay ≤ wait) →
        ((LineReader.ofStream (s e)).reads waits).1 =
          ((LineReader.delivery (e.received lines) waits.length).take waits.length).map
            (·.map some))) ∧
    ∀ (c : Config) (clock : Nat) (echo : Bool) (guest : String) (onStop : Option Fault),
      c.validate = .ok () → clock + c.timeoutMs < clockEnd →
      (∀ e, (s e).totalDelay < c.timeoutMs) →
      ∃ m, Markers.ofConfig c.markers = .ok m ∧ ∃ r : LineEnding → Report,
        (∀ e, ∃ o, LineReader.run? (.ofConfig c m none clock echo) guest
            ⟨.ofStream (s e), none, onStop⟩ = some o ∧ o.report = some (r e)) ∧
        (∀ e, (r e).status = (r .feed).status ∧ (r e).message = (r .feed).message) ∧
        ((∃ line ∈ lines, m.classify line ≠ none) → ∀ e, (r e).output = (r .feed).output) ∧
        ((∀ line ∈ lines, m.classify line = none) → ∀ e, (r e).output = e.received lines) := by
  have received (e : LineEnding) : linesOf (s e).octets = e.received lines := by
    rw [octets, LineEnding.linesOf_written e are]
  refine ⟨fun e waits => received e ▸ LineReader.reads_deliver (plain e) waits, ?_⟩
  intro c clock echo guest onStop valid fits soon
  have accepted := Config.validate_eq_ok.mp valid
  obtain ⟨m, hm⟩ := accepted.markers_ofConfig
  refine ⟨m, hm,
    fun e => (Plan.ofConfig c m none clock echo).scheduled guest (LineReader.schedule 0 [] (s e)),
    fun e => stream_scheduled accepted.lineTimeoutMs_pos fits (plain e).endless m none echo guest
      onStop, ?_⟩
  have judged (e : LineEnding) :=
    received_judged (p := .ofConfig c m none clock echo) rfl (plain e) (soon e) guest (received e)
  refine ⟨fun e => ?_, fun decided e => ?_, fun undecided e => ?_⟩
  · obtain ⟨-, status, message⟩ := judged e
    obtain ⟨-, status', message'⟩ := judged .feed
    exact ⟨status.trans status'.symm, message.trans message'.symm⟩
  · rw [(judged e).1, (judged .feed).1]
    exact congrArg Prod.fst ((Markers.judge_received_of_decided decided e).trans
      (Markers.judge_received_of_decided decided .feed).symm)
  · rw [(judged e).1]
    exact congrArg Prod.fst (Markers.judge_received_of_none undecided e)

/-- Three lines, one of them empty. Nothing decides, so all that has been received is the output. -/
theorem line_endings_judged_undecided :
    ∃ r : LineEnding → Report,
      (∀ e, ∃ o, LineReader.run? (.ofConfig .default .default none 0 false) "qemu"
          ⟨.ofStream [.bytes (e.written ["boot", "", "ready"])], none, none⟩ = some o ∧
        o.report = some (r e)) ∧
      (r .returnFeed).output = ["boot", "", "ready"] ∧
      (r .feedReturn).output = ["boot", "", "ready", ""] ∧
      ∀ e, (r e).status = (r .feed).status ∧ (r e).message = (r .feed).message := by
  have are : ∀ line ∈ ["boot", "", "ready"], IsLine line := by decide
  have plain (e : LineEnding) : Stream.Plain [.bytes (e.written ["boot", "", "ready"])] := by
    simp [Stream.Plain]
  have octets (e : LineEnding) : Stream.octets [.bytes (e.written ["boot", "", "ready"])] =
      e.written ["boot", "", "ready"] := List.append_nil _
  have soon (e : LineEnding) :
      Stream.totalDelay [.bytes (e.written ["boot", "", "ready"])] < Config.default.timeoutMs := by
    show 0 < Config.default.timeoutMs
    decide
  obtain ⟨-, runs⟩ := line_endings_judged are plain octets
  obtain ⟨m, hm, r, reports, same, -, undecided⟩ :=
    runs .default 0 false "qemu" none rfl (by decide) soon
  obtain rfl : m = .default := by cases hm; rfl
  have output := undecided (by decide)
  exact ⟨r, reports, output .returnFeed, output .feedReturn, same⟩

/-- After a last line that is ended by a line feed and a carriage return, an empty line is read. -/
theorem feedReturn_reads_one_more :
    IsLine "a" ∧
      ((LineReader.ofStream [.bytes (LineEnding.feed.written ["a"])]).reads [0, 0]).1 =
        [.ok (some "a"), .error .streamClosed] ∧
      ((LineReader.ofStream [.bytes (LineEnding.feedReturn.written ["a"])]).reads [0, 0]).1 =
        [.ok (some "a"), .ok (some "")] :=
  ⟨by decide, rfl, rfl⟩

end Run

end GuestWatch
