import GuestWatch.Proofs.LineReader.Punctual
import GuestWatch.Proofs.Run.Playing

/-! # Runs over streams

A stream has a schedule, and the report of a run over it is what the schedule leads to. How the
octets are cut into chunks and the time into reads can be seen in nothing but the times of the
lines. A stream of octets and delays that ends before the deadline is judged by its lines alone.
-/
namespace GuestWatch

/-- What a sequence of lines that then ends comes to: what is heard of it, and why no more. -/
def Markers.judge (m : Markers) : List String → List String × Run.Ending
  | [] => ([], .fault .streamClosed)
  | line :: lines =>
    match m.classify line with
    | some v => ([line], .decided v)
    | none => (line :: (m.judge lines).1, (m.judge lines).2)

theorem Markers.judge_append {m : Markers} {earlier : List String}
    (h : ∀ line ∈ earlier, m.classify line = none) (lines : List String) :
    m.judge (earlier ++ lines) = (earlier ++ (m.judge lines).1, (m.judge lines).2) := by
  induction earlier with
  | nil => rfl
  | cons line earlier ih =>
    obtain ⟨hn, rest⟩ := List.forall_mem_cons.mp h
    simp [judge, hn, ih rest]

theorem Markers.judge_of_none {m : Markers} {lines : List String}
    (h : ∀ line ∈ lines, m.classify line = none) :
    m.judge lines = (lines, .fault .streamClosed) := by
  simpa [judge] using judge_append h []

theorem Markers.judge_of_first {m : Markers} {lines : List String} {k : Nat} {line : String}
    {v : Verdict} (hk : lines[k]? = some line) (hv : m.classify line = some v)
    (before : ∀ earlier ∈ lines.take k, m.classify earlier = none) :
    m.judge lines = (lines.take (k + 1), .decided v) := by
  obtain ⟨inside, rfl⟩ := List.getElem?_eq_some_iff.mp hk
  have split := judge_append before (lines.drop k)
  rw [List.take_append_drop, List.drop_eq_getElem_cons inside] at split
  rw [split, List.take_add_one, hk]
  simp [judge, hv]

/-- Either no line of a sequence decides, or there is a first one that does. -/
theorem Markers.undecided_or_first (m : Markers) (lines : List String) :
    (∀ line ∈ lines, m.classify line = none) ∨ ∃ earlier line later v,
      lines = earlier ++ line :: later ∧ (∀ text ∈ earlier, m.classify text = none) ∧
        m.classify line = some v := by
  induction lines with
  | nil => simp
  | cons line lines ih =>
    cases verdict : m.classify line with
    | some v => exact .inr ⟨[], line, lines, v, rfl, by simp, verdict⟩
    | none =>
      obtain undecided | ⟨earlier, first, later, v, rfl, before, decides⟩ := ih
      · exact .inl (List.forall_mem_cons.mpr ⟨verdict, undecided⟩)
      · exact .inr ⟨line :: earlier, first, later, v, rfl,
          List.forall_mem_cons.mpr ⟨verdict, before⟩, decides⟩

namespace Run

variable {p : Plan} {now : Nat} {heard : List String} {sch : Schedule}

/-- Lines before the deadline that decide nothing are heard, and a schedule is followed after
them. -/
theorem Plan.follow_undecided (heard : List String) (never : p.cancelAt = none)
    {lines : List String} (said : sch.map Prod.snd = lines.map .ok)
    (undecided : ∀ line ∈ lines, p.markers.classify line = none) (early : now < p.timeoutMs)
    (times : ∀ entry ∈ sch, entry.1 < p.timeoutMs) (rest : Schedule) :
    ∃ time < p.timeoutMs,
      p.follow now heard (sch ++ rest) = p.follow time (lines.reverse ++ heard) rest := by
  have uncancelled := Plan.cancelledBy_of_none never
  induction lines generalizing now heard sch with
  | nil =>
    obtain rfl := List.map_eq_nil_iff.mp said
    exact ⟨now, early, rfl⟩
  | cons line lines ih =>
    obtain ⟨⟨time, answer⟩, sch, rfl, rfl, said'⟩ := List.map_eq_cons_iff.mp said
    obtain ⟨within, times⟩ := List.forall_mem_cons.mp times
    obtain ⟨verdict, undecided⟩ := List.forall_mem_cons.mp undecided
    obtain ⟨last, soon, followed⟩ := ih (line :: heard) said' undecided within times
    refine ⟨last, soon, ?_⟩
    rw [List.cons_append, follow_heard early (Nat.le_of_lt within) (uncancelled time) verdict,
      followed]
    simp

/-- A schedule comes to the first line that decides, if it is said before the deadline. -/
theorem Plan.follow_first (heard : List String) (never : p.cancelAt = none)
    {earlier later : List String} {line : String} {v : Verdict}
    (said : sch.map Prod.snd = (earlier ++ line :: later).map .ok)
    (undecided : ∀ text ∈ earlier, p.markers.classify text = none)
    (verdict : p.markers.classify line = some v) (early : now < p.timeoutMs)
    (times : ∀ entry ∈ sch, entry.1 < p.timeoutMs) (rest : Schedule) :
    ∃ time, p.follow now heard (sch ++ rest) =
      (time, line :: (earlier.reverse ++ heard), .decided v) := by
  rw [List.map_append] at said
  obtain ⟨front, back, rfl, before, after⟩ := List.map_eq_append_iff.mp said
  obtain ⟨⟨time, answer⟩, back, rfl, rfl, -⟩ := List.map_eq_cons_iff.mp after
  obtain ⟨frontTimes, backTimes⟩ := List.forall_mem_append.mp times
  have within : time < p.timeoutMs := backTimes _ List.mem_cons_self
  obtain ⟨reached, soon, followed⟩ := follow_undecided heard never before undecided early
    frontTimes ((time, .ok line) :: back ++ rest)
  refine ⟨time, ?_⟩
  rw [List.append_assoc, followed, List.cons_append]
  exact follow_decided soon (Nat.le_of_lt within) (cancelledBy_of_none never time) verdict

/-- A schedule that is over before the deadline comes to what its lines come to. -/
theorem Plan.follow_lines (never : p.cancelAt = none) {lines : List String}
    (said : sch.map Prod.snd = lines.map .ok ++ [.error .streamClosed])
    (early : now < p.timeoutMs) (times : ∀ entry ∈ sch, entry.1 < p.timeoutMs) :
    ∃ time, p.follow now heard sch =
      (time, (p.markers.judge lines).1.reverse ++ heard, (p.markers.judge lines).2) := by
  obtain ⟨front, back, rfl, before, after⟩ := List.map_eq_append_iff.mp said
  obtain ⟨⟨time, answer⟩, none, rfl, rfl, nothing⟩ := List.map_eq_cons_iff.mp after
  obtain rfl := List.map_eq_nil_iff.mp nothing
  obtain ⟨frontTimes, backTimes⟩ := List.forall_mem_append.mp times
  have within : time < p.timeoutMs := backTimes _ List.mem_cons_self
  obtain undecided | ⟨earlier, line, later, v, rfl, undecided, verdict⟩ :=
    p.markers.undecided_or_first lines
  · obtain ⟨reached, soon, followed⟩ := follow_undecided heard never before undecided early
      frontTimes [(time, .error .streamClosed)]
    refine ⟨time, ?_⟩
    rw [followed, Markers.judge_of_none undecided]
    exact follow_fault soon (Nat.le_of_lt within) (cancelledBy_of_none never time)
  · obtain ⟨reached, followed⟩ := follow_first heard never before undecided verdict early
      frontTimes [(time, .error .streamClosed)]
    refine ⟨reached, ?_⟩
    rw [followed, Markers.judge_append undecided]
    simp [Markers.judge, verdict]

variable {c : Config} {s : Stream}

/-- A run over a stream that has no end of file before its end, as its schedule tells it. -/
theorem stream_scheduled (hl : 0 < c.lineTimeoutMs.toNat) {clock : Nat}
    (fits : clock + c.timeoutMs < clockEnd) (endless : Event.ending ∉ s) (m : Markers)
    (cancelAt : Option Nat) (echo : Bool) (guest : String) (onStop : Option Fault) :
    ∃ o, LineReader.run? (.ofConfig c m cancelAt clock echo) guest ⟨.ofStream s, none, onStop⟩ =
        some o ∧
      o.report = some ((Plan.ofConfig c m cancelAt clock echo).scheduled guest
        (LineReader.schedule 0 [] s)) := by
  obtain ⟨o, ho⟩ := LineReader.run?_ends (p := .ofConfig c m cancelAt clock echo) hl guest
    ⟨.ofStream s, none, onStop⟩
  have on : LineReader.OnSchedule 0 (.ofStream s) (LineReader.schedule 0 [] s) :=
    .reading endless List.not_mem_nil
  have hp := (Plan.deadlineFits_ofConfig c m cancelAt clock echo).mpr fits
  exact ⟨o, ho, run?_scheduled LineReader.keeps rfl hp on ho⟩

/-- A stream of octets and delays that is over before the deadline is judged by the lines of all
its octets together. -/
theorem scheduled_judged (never : p.cancelAt = none) (plain : s.Plain)
    (soon : s.totalDelay < p.timeoutMs) (guest : String) {output : List String} {e : Ending}
    (judged : p.markers.judge (linesOf s.octets) = (output, e)) :
    (p.scheduled guest (LineReader.schedule 0 [] s)).output = output ∧
      (p.scheduled guest (LineReader.schedule 0 [] s)).status = e.status ∧
      (p.scheduled guest (LineReader.schedule 0 [] s)).message = e.message := by
  have said : (LineReader.schedule 0 [] s).map Prod.snd =
      (linesOf s.octets).map .ok ++ [.error .streamClosed] :=
    LineReader.answers_schedule plain List.not_mem_nil
  have times : ∀ entry ∈ LineReader.schedule 0 [] s, entry.1 < p.timeoutMs := by
    intro entry he
    have := LineReader.schedule_le plain he
    omega
  have early : 0 < p.timeoutMs := by omega
  obtain ⟨time, hf⟩ := Plan.follow_lines never said early times
  rw [judged, List.append_nil] at hf
  rw [Plan.scheduled, hf]
  exact ⟨List.reverse_reverse output, rfl, rfl⟩

/-- A run over octets and delays that are over before the deadline. Its output and its verdict are
those of the lines of all octets together, up to the first that decides. -/
theorem stream_judged (h : c.validate = .ok ()) {clock : Nat}
    (fits : clock + c.timeoutMs < clockEnd) (plain : s.Plain) (soon : s.totalDelay < c.timeoutMs)
    (echo : Bool) (guest : String) (onStop : Option Fault) :
    ∃ m o r, Markers.ofConfig c.markers = .ok m ∧
      LineReader.run? (.ofConfig c m none clock echo) guest ⟨.ofStream s, none, onStop⟩ = some o ∧
      o.report = some r ∧
      (∀ k line v, (linesOf s.octets)[k]? = some line → m.classify line = some v →
        (∀ earlier ∈ (linesOf s.octets).take k, m.classify earlier = none) →
        r.output = (linesOf s.octets).take (k + 1) ∧
        match v with
        | .pass => r.status = .passed ∧ r.message = none
        | .fail why => r.status = .failed ∧ r.message = some why.message) ∧
      ((∀ line ∈ linesOf s.octets, m.classify line = none) →
        r.output = linesOf s.octets ∧ r.status = .backendError ∧
          r.message = some "guest output ended before a terminal marker") := by
  have accepted := Config.validate_eq_ok.mp h
  obtain ⟨m, hm⟩ := accepted.markers_ofConfig
  obtain ⟨o, ho, hr⟩ := stream_scheduled accepted.lineTimeoutMs_pos fits plain.endless m none echo
    guest onStop
  refine ⟨m, o, _, hm, ho, hr, ?_, ?_⟩
  · intro k line v hk hv before
    obtain ⟨output, status, message⟩ := scheduled_judged (p := .ofConfig c m none clock echo) rfl
      plain soon guest (Markers.judge_of_first hk hv before)
    refine ⟨output, ?_⟩
    cases v with
    | pass => exact ⟨status, message⟩
    | fail why => exact ⟨status, message⟩
  · intro undecided
    exact scheduled_judged (p := .ofConfig c m none clock echo) rfl plain soon guest
      (Markers.judge_of_none undecided)

/-- A pass marker that comes in two chunks, long after one another. -/
theorem stream_judged_pass :
    ∃ o r, LineReader.run? (.ofConfig .default .default none 0 false) "qemu"
        ⟨.ofStream [.bytes [0x0D, 0x50, 0x41], .delay 1500, .bytes [0x53, 0x53, 0x0A, 0x21]],
          none, none⟩ = some o ∧
      o.report = some r ∧ r.output = ["PASS"] ∧ r.status = .passed ∧ r.message = none := by
  have plain : Stream.Plain
      [.bytes [0x0D, 0x50, 0x41], .delay 1500, .bytes [0x53, 0x53, 0x0A, 0x21]] := by
    simp [Stream.Plain]
  have fits : 0 + Config.default.timeoutMs < clockEnd := by decide
  obtain ⟨m, o, r, hm, ho, hr, first, -⟩ := stream_judged (c := .default) rfl fits plain (by decide)
    false "qemu" none
  obtain rfl : m = .default := by cases hm; rfl
  obtain ⟨output, status, message⟩ := first 0 "PASS" .pass rfl rfl (by simp)
  exact ⟨o, r, ho, hr, output, status, message⟩

/-- Two runs over a stream that differ in the line timeout alone leave the same report, however
they end. It is that of the stream's schedule if the guest can be started. -/
theorem line_timeout_unobservable (hl : 0 < c.lineTimeoutMs) {lineTimeoutMs : UInt64}
    (hl' : 0 < lineTimeoutMs) {clock : Nat} (fits : clock + c.timeoutMs < clockEnd)
    (endless : Event.ending ∉ s) (m : Markers) (cancelAt : Option Nat) (echo : Bool)
    (guest : String) (onStart onStop : Option Fault) :
    ∃ o o' r,
      LineReader.run? (.ofConfig c m cancelAt clock echo) guest ⟨.ofStream s, onStart, onStop⟩ =
        some o ∧
      LineReader.run? (.ofConfig { c with lineTimeoutMs } m cancelAt clock echo) guest
        ⟨.ofStream s, onStart, onStop⟩ = some o' ∧
      o.report = some r ∧ o'.report = some r ∧
      (onStart = none →
        r = (Plan.ofConfig c m cancelAt clock echo).scheduled guest
          (LineReader.schedule 0 [] s)) := by
  cases onStart with
  | some f =>
    have hs : (Playback.operations LineReader.nextLine).start ⟨.ofStream s, some f, onStop⟩ =
        (.error f, ⟨.ofStream s, none, onStop⟩) := rfl
    exact ⟨_, _, _, run?_of_start_error _ hs, run?_of_start_error _ hs, rfl, rfl, by simp⟩
  | none =>
    obtain ⟨o, ho, hr⟩ := stream_scheduled (UInt64.lt_iff_toNat_lt.mp hl) fits endless m cancelAt
      echo guest onStop
    obtain ⟨o', ho', hr'⟩ := stream_scheduled (c := { c with lineTimeoutMs })
      (UInt64.lt_iff_toNat_lt.mp hl') fits endless m cancelAt echo guest onStop
    have same : (Plan.ofConfig { c with lineTimeoutMs } m cancelAt clock echo).scheduled guest
        (LineReader.schedule 0 [] s) =
          (Plan.ofConfig c m cancelAt clock echo).scheduled guest (LineReader.schedule 0 [] s) :=
      Plan.scheduled_lineTimeout (.ofConfig c m cancelAt clock echo) lineTimeoutMs.toNat guest _
    exact ⟨o, o', _, ho, ho', hr, same ▸ hr', fun _ => rfl⟩

/-- Reads of one millisecond and reads of one second, cancelled when octets come. -/
theorem line_timeout_unobservable_cancelled :
    ∃ o o' r,
      LineReader.run? (.ofConfig .default .default (some 700) 0 false) "qemu"
        ⟨.ofStream [.delay 700, .bytes [0x50], .failure "gone"], none, none⟩ = some o ∧
      LineReader.run?
        (.ofConfig { Config.default with lineTimeoutMs := 1 } .default (some 700) 0 false) "qemu"
        ⟨.ofStream [.delay 700, .bytes [0x50], .failure "gone"], none, none⟩ = some o' ∧
      o.report = some r ∧ o'.report = some r ∧ r.message = some "run interrupted" ∧
      r.elapsedMs = 700 := by
  have endless : Event.ending ∉ [.delay 700, .bytes [0x50], .failure "gone"] := by simp
  have fits : 0 + Config.default.timeoutMs < clockEnd := by decide
  obtain ⟨o, o', r, ho, ho', hr, hr', scheduled⟩ := line_timeout_unobservable (c := .default)
    (by decide) (by decide : (0 : UInt64) < 1) fits endless .default (some 700) false "qemu" none
    none
  rw [scheduled rfl] at hr hr'
  exact ⟨o, o', _, ho, ho', hr, hr', rfl, rfl⟩

end Run

end GuestWatch
