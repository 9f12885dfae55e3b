import GuestWatch.Proofs.Backend.Runs
import GuestWatch.Proofs.Markers.NormalForms
import GuestWatch.Proofs.Run.FurtherMarkers
import GuestWatch.Proofs.Run.Streams
import GuestWatch.Proofs.Text.Encoded

/-! # Markers that a guest prints

A marker is compared without the blanks at its ends. If no line feed is left in it, a guest that
prints it prints blank lines at most before the line that is compared equal, and that line decides
the run. A marker with a line feed inside is cut in two wherever it is printed. No line is ever
equal to it, and a configuration that has it is accepted but does as if it had not.
-/
namespace GuestWatch

open Text (isBlank)
open Text.Utf8 (encode encodeChars)

/-! ## The lines of a printed marker -/

section Lines

variable {cs piece front core back : List Char} {marker : String}

theorem linesOf_encodeChars_line (h : '\n' ∉ cs) (rest : List Char) :
    linesOf (encodeChars (cs ++ '\n' :: rest)) =
      pieceText (encodeChars cs) :: linesOf (encodeChars rest) := by
  have cut : encodeChars (cs ++ '\n' :: rest) = encodeChars cs ++ lineFeed :: encodeChars rest :=
    Text.Utf8.encodeChars_append cs ('\n' :: rest)
  rw [cut]
  exact linesOf_append_lineFeed (fun feed => h (Text.Utf8.lineFeed_mem_encodeChars.mp feed)) _

theorem normalize_printed (h : '\n' ∉ cs) :
    normalize (pieceText (encodeChars cs)) = String.ofList (Text.trim cs) := by
  have unbroken : lineFeed ∉ encodeChars cs :=
    fun feed => h (Text.Utf8.lineFeed_mem_encodeChars.mp feed)
  rw [← lineText_of_not_mem unbroken, normalize_lineText, Text.Utf8.decode,
    Text.Utf8.decodeChars_encodeChars, normalize, String.toList_ofList]

theorem trim_of_blank (h : ∀ c ∈ cs, isBlank c = true) : Text.trim cs = [] := by
  simpa [Text.trim] using Text.strip_append h (List.forall_mem_nil _) []

/-- A text without line feeds, printed with blanks around it, is on one line. All lines before that
line are blank. -/
theorem linesOf_padded (hc : '\n' ∉ core) (hf : ∀ c ∈ front, isBlank c = true)
    (hb : ∀ c ∈ back, isBlank c = true) (hp : ∀ c ∈ piece, isBlank c = true)
    (whole : '\n' ∉ piece) :
    ∃ earlier line later,
      linesOf (encodeChars (piece ++ (front ++ core ++ back ++ ['\n']))) =
        earlier ++ line :: later ∧
      (∀ text ∈ earlier, normalize text = "") ∧
      normalize line = String.ofList (Text.trim core) := by
  induction front generalizing piece with
  | nil =>
    -- The line ends with the first line feed behind the text, which may be a blank of its own.
    obtain ⟨last, rest, split, hl⟩ :=
      List.eq_append_cons_of_mem (List.mem_append_right back (List.mem_singleton_self '\n'))
    have blanks : ∀ c ∈ back ++ ['\n'], isBlank c = true :=
      List.forall_mem_append.mpr ⟨hb, List.forall_mem_singleton.mpr rfl⟩
    have blank : ∀ c ∈ last, isBlank c = true := fun c h =>
      blanks c (split ▸ List.mem_append_left _ h)
    have unbroken : '\n' ∉ piece ++ core ++ last := by simp [whole, hc, hl]
    have text : piece ++ ([] ++ core ++ back ++ ['\n']) =
        (piece ++ core ++ last) ++ '\n' :: rest := by simp [split]
    refine ⟨[], pieceText (encodeChars (piece ++ core ++ last)), linesOf (encodeChars rest), ?_,
      by simp, ?_⟩
    · rw [text]
      exact linesOf_encodeChars_line unbroken rest
    · rw [normalize_printed unbroken, Text.trim, Text.strip_append hp blank]
      rfl
  | cons c front ih =>
    obtain ⟨first, others⟩ := List.forall_mem_cons.mp hf
    by_cases feed : c = '\n'
    · subst feed
      obtain ⟨earlier, line, later, lines, blank, same⟩ :=
        ih others (List.forall_mem_nil _) List.not_mem_nil
      refine ⟨pieceText (encodeChars piece) :: earlier, line, later, ?_, ?_, same⟩
      · rw [List.nil_append] at lines
        rw [List.cons_append, List.cons_append, List.cons_append,
          linesOf_encodeChars_line whole, lines]
        rfl
      · refine List.forall_mem_cons.mpr ⟨?_, blank⟩
        rw [normalize_printed whole, trim_of_blank hp]
    · have hp' : ∀ c' ∈ piece ++ [c], isBlank c' = true :=
        List.forall_mem_append.mpr ⟨hp, by simpa using first⟩
      have whole' : '\n' ∉ piece ++ [c] := by simp [whole, Ne.symm feed]
      simpa using ih others hp' whole'

/-- A printed marker that has no line feed left without the blanks at its ends. -/
theorem linesOf_marker (h : '\n' ∉ (normalize marker).toList) :
    ∃ earlier line later, linesOf (encode marker ++ [lineFeed]) = earlier ++ line :: later ∧
      (∀ text ∈ earlier, normalize text = "") ∧ normalize line = normalize marker := by
  have core : (normalize marker).toList = Text.trim marker.toList := String.toList_ofList
  obtain ⟨front, back, split, hf, hb⟩ := Text.exists_strip isBlank marker.toList
  rw [← Text.trim, ← core] at split
  obtain ⟨earlier, line, later, lines, blank, same⟩ :=
    linesOf_padded h hf hb (List.forall_mem_nil _) List.not_mem_nil
  have printed : encode marker ++ [lineFeed] = encodeChars (marker.toList ++ ['\n']) :=
    (Text.Utf8.encodeChars_append marker.toList ['\n']).symm
  refine ⟨earlier, line, later, ?_, blank, ?_⟩
  · rw [printed, split]
    exact lines
  · rw [same, core, Text.trim, Text.trim, Text.strip_strip]
    rfl

/-- A line is never equal to a marker with a line feed inside. -/
theorem normalize_ne_of_broken (h : '\n' ∈ (normalize marker).toList) {line : String}
    (whole : '\n' ∉ line.toList) : normalize line ≠ normalize marker := by
  intro same
  rw [← same, normalize, String.toList_ofList] at h
  exact whole (Text.mem_of_mem_strip h)

end Lines

/-! ## Markers in and out of a configuration -/

/-- A configuration without the markers that are compared as a given one is. -/
def MarkerConfig.without (c : MarkerConfig) (marker : String) : MarkerConfig :=
  { c with
    pass := c.pass.filter (normalize · ≠ normalize marker)
    fail := c.fail.filter (normalize · ≠ normalize marker) }

namespace Markers

variable {m m₀ : Markers} {c : MarkerConfig} {line marker : String}

theorem classify_of_mem_fail (listed : normalize line ∈ m.fail) (shown : normalize line ≠ "") :
    m.classify line = some (.fail (.marker (normalize line))) := by
  simp [classify, verdict?, shown, listed]

theorem classify_of_mem_pass (listed : normalize line ∈ m.pass) (other : normalize line ∉ m.fail)
    (shown : normalize line ≠ "") : m.classify line = some .pass := by
  simp [classify, verdict?, shown, other, listed]

theorem lists_of_ofConfig (h : ofConfig c = .ok m) :
    m.pass = c.pass.map normalize ∧ m.fail = c.fail.map normalize := by
  obtain ⟨expect, -, rfl⟩ := map_eq_ok.mp h
  exact ⟨rfl, rfl⟩

theorem ofConfig_without (h : ofConfig c = .ok m) (marker : String) :
    ∃ m₀, ofConfig (c.without marker) = .ok m₀ ∧
      ∀ line, normalize line ≠ normalize marker → m₀.classify line = m.classify line := by
  obtain ⟨expect, pattern, rfl⟩ := map_eq_ok.mp h
  refine ⟨_, map_eq_ok.mpr ⟨expect, pattern, rfl⟩, fun line other => ?_⟩
  have stays (markers : List String) :
      normalize line ∈ (markers.filter (normalize · ≠ normalize marker)).map normalize ↔
        normalize line ∈ markers.map normalize := by
    simp only [List.mem_map, List.mem_filter, decide_eq_true_eq]
    constructor
    · rintro ⟨text, ⟨listed, -⟩, same⟩
      exact ⟨text, listed, same⟩
    · rintro ⟨text, listed, same⟩
      exact ⟨text, ⟨listed, same ▸ other⟩, same⟩
  simp only [classify, verdict?, MarkerConfig.without, List.contains_iff_mem, stays]
  congr

end Markers

namespace Run

variable {σ : Type} {ops : Operations σ} {p : Plan} {m' : Markers} {w v : Watch σ}
  {I : σ → Prop} {P : String → Prop}

/-- Markers that agree on all that a guest can say make no difference to a turn. -/
theorem turn_withMarkers (keeps : Keeps ops I P)
    (agree : ∀ line, P line → m'.classify line = p.markers.classify line) (h : w.Holds I P) :
    turn ops (p.withMarkers m') w = turn ops p w := by
  have ht := turn_spec ops p w
  obtain same | ⟨line, output, ending, turned⟩ := ht.withMarkers m'
  · exact same.eq
  · have kind : P line := (keeps.turn h ht).output line (by rw [output]; exact List.mem_cons_self)
    rw [agree line kind, ← ending] at turned
    exact turned.eq

theorem watch_withMarkers (keeps : Keeps ops I P)
    (agree : ∀ line, P line → m'.classify line = p.markers.classify line) (h : w.Holds I P)
    (fuel : Nat) : watch ops (p.withMarkers m') w fuel = watch ops p w fuel := by
  induction fuel generalizing w with
  | zero => rfl
  | succ fuel ih =>
    have ht := turn_spec ops p w
    have same := turn_withMarkers keeps agree h
    rcases hv : turn ops p w with ⟨v, _ | e⟩
    · rw [hv] at ht
      simp only [watch, same, hv]
      exact ih (keeps.turn h ht)
    · simp only [watch, same, hv]

theorem run?_withMarkers (keeps : Keeps ops I P)
    (agree : ∀ line, P line → m'.classify line = p.markers.classify line) {guest : String} {s : σ}
    (begun : (ops.start s).1 = .ok () → I (ops.start s).2) (fuel : Nat) :
    run? ops (p.withMarkers m') guest s fuel = run? ops p guest s fuel := by
  have fits : (p.withMarkers m').deadlineFits = p.deadlineFits := rfl
  rcases hs : ops.start s with ⟨_ | _, s'⟩
  · rw [run?_of_start_error ops hs, run?_of_start_error ops hs]
  · cases hp : p.deadlineFits with
    | false => rw [run?_of_unfit ops hs hp, run?_of_unfit ops hs (fits.trans hp)]
    | true =>
      rw [hs] at begun
      have fresh : (Watch.fresh s').Holds I P :=
        ⟨begun rfl, fun line hl => absurd hl List.not_mem_nil⟩
      rw [run?_of_started ops hs hp, run?_of_started ops hs (fits.trans hp),
        watch_withMarkers keeps agree fresh]

end Run

theorem LineReader.operations_keeps : Run.Keeps (Playback.operations LineReader.nextLine)
    (lineFeed ∉ ·.source.pending) ('\n' ∉ ·.toList) := by
  intro s s' wait took answer unfinished h
  obtain ⟨line, pending⟩ :=
    LineReader.nextLine_unbroken unfinished (Playback.operations_read h)
  exact ⟨pending, line⟩

namespace Run

variable {p : Plan} {c : Config} {m : Markers} {marker : String}

/-- What a stream says first decides a run over it, whatever comes after it. -/
theorem scheduled_first (never : p.cancelAt = none) {front after : Stream} (plain : front.Plain)
    {bytes : List UInt8} (octets : front.octets = bytes ++ [lineFeed])
    (soon : front.totalDelay < p.timeoutMs) {earlier later : List String} {line : String}
    {v : Verdict} (lines : linesOf (bytes ++ [lineFeed]) = earlier ++ line :: later)
    (undecided : ∀ text ∈ earlier, p.markers.classify text = none)
    (verdict : p.markers.classify line = some v) (guest : String) :
    (p.scheduled guest (LineReader.schedule 0 [] (front ++ after))).status =
        (Ending.decided v).status ∧
      (p.scheduled guest (LineReader.schedule 0 [] (front ++ after))).message =
        (Ending.decided v).message := by
  obtain ⟨said, split, answers, times⟩ := LineReader.schedule_front 0 [] plain after
  have cut : linesOf (bytes ++ [lineFeed]) =
      (finish [] (bytes ++ [lineFeed])).1.map pieceText := by
    have whole := linesOf_finish List.not_mem_nil (bytes ++ [lineFeed])
    rwa [finish_lineFeed, List.nil_append, linesOf, linesOf, pieces, List.map_nil,
      List.append_nil] at whole
  rw [octets, ← cut, lines] at answers
  have early : ∀ entry ∈ said, entry.1 < p.timeoutMs := by
    intro entry he
    have := times entry he
    omega
  have begun : 0 < p.timeoutMs := by omega
  obtain ⟨time, followed⟩ := Plan.follow_first [] never answers undecided verdict begun early
    (LineReader.schedule (0 + front.totalDelay) (finish [] front.octets).2 after)
  rw [split, Plan.scheduled, followed]
  exact ⟨rfl, rfl⟩

/-- Under an accepted configuration whose deadline the clock can tell, a guest that prints one of
the markers and a line feed before the deadline, in whatever chunks, and then says no more, hangs,
fails or goes on, fails the run for that marker, or passes it if the marker is not also a fail
marker, provided that no line feed is left in the marker without the blanks at its ends. If one is
left, every run over a stream or a guest leaves what it leaves without the marker. -/
theorem printed_marker_decides (h : c.validate = .ok ()) (marker : String) :
    ∃ m, Markers.ofConfig c.markers = .ok m ∧
      ('\n' ∉ (normalize marker).toList →
        ∀ (clock : Nat) (echo : Bool) (front after : Stream) (guest : String)
          (onStop : Option Fault), clock + c.timeoutMs < clockEnd → front.Plain →
          front.octets = encode marker ++ [lineFeed] → front.totalDelay < c.timeoutMs →
          Event.ending ∉ after →
          ∃ o r, LineReader.run? (.ofConfig c m none clock echo) guest
              ⟨.ofStream (front ++ after), none, onStop⟩ = some o ∧ o.report = some r ∧
            (marker ∈ c.markers.fail → r.status = .failed ∧
              r.message = some (Reason.marker (normalize marker)).message) ∧
            (marker ∈ c.markers.pass → normalize marker ∉ c.markers.fail.map normalize →
              r.status = .passed ∧ r.message = none)) ∧
      ('\n' ∈ (normalize marker).toList →
        ∃ m₀, Markers.ofConfig (c.markers.without marker) = .ok m₀ ∧
          (∀ (cancelAt : Option Nat) (clock : Nat) (echo : Bool) (guest : String) (s : Stream)
            (onStart onStop : Option Fault),
            LineReader.run? (.ofConfig c m cancelAt clock echo) guest
                ⟨.ofStream s, onStart, onStop⟩ =
              LineReader.run? (.ofConfig c m₀ cancelAt clock echo) guest
                ⟨.ofStream s, onStart, onStop⟩) ∧
          ∀ (env : Environment) (i : Interruption) (clock : Nat) (echo : Bool) (g : Guest),
            g.run? env c m i clock echo = g.run? env c m₀ i clock echo) := by
  have accepted := Config.validate_eq_ok.mp h
  obtain ⟨m, hm⟩ := accepted.markers_ofConfig
  refine ⟨m, hm, ?_, ?_⟩
  · intro whole clock echo front after guest onStop fits plain octets soon endless
    obtain ⟨o, ho, hr⟩ := stream_scheduled (s := front ++ after) accepted.lineTimeoutMs_pos fits
      (List.not_mem_append plain.endless endless) m none echo guest onStop
    obtain ⟨earlier, line, later, lines, blank, same⟩ := linesOf_marker whole
    obtain ⟨pass, fail⟩ := Markers.lists_of_ofConfig hm
    have undecided := fun text ht => m.classify_of_blank (blank text ht)
    refine ⟨o, _, ho, hr, fun listed => ?_, fun listed other => ?_⟩
    · have shown := accepted.markers marker (List.mem_append_right _ listed)
      have found : normalize marker ∈ m.fail := fail ▸ List.mem_map_of_mem listed
      rw [← same] at shown found ⊢
      exact scheduled_first (p := .ofConfig c m none clock echo) rfl plain octets soon lines
        undecided (Markers.classify_of_mem_fail found shown) guest
    · have shown := accepted.markers marker (List.mem_append_left _ listed)
      have found : normalize marker ∈ m.pass := pass ▸ List.mem_map_of_mem listed
      rw [← fail] at other
      rw [← same] at shown found other
      exact scheduled_first (p := .ofConfig c m none clock echo) rfl plain octets soon lines
        undecided (Markers.classify_of_mem_pass found other shown) guest
  · intro broken
    obtain ⟨m₀, hm₀, agree⟩ := Markers.ofConfig_without hm marker
    have unheard (line : String) (whole : '\n' ∉ line.toList) :
        m₀.classify line = m.classify line := agree line (normalize_ne_of_broken broken whole)
    refine ⟨m₀, hm₀, fun cancelAt clock echo guest s onStart onStop => ?_,
      fun env i clock echo g => ?_⟩
    · exact (run?_withMarkers (p := .ofConfig c m cancelAt clock echo) LineReader.operations_keeps
        unheard (fun _ => List.not_mem_nil) _).symm
    · exact (run?_withMarkers (p := g.plan env c m i clock echo) (Backend.operations_keeps env)
        unheard (Guest.unfinished_of_started c g env) _).symm

/-- A pass marker between blanks and line feeds, printed in two chunks by a guest that then hangs,
and one with a line feed inside. -/
theorem printed_marker_decides_padded :
    ∃ c : Config, c.validate = .ok () ∧ c.markers.pass = ["\t\nOK \r\n", "all\nwell"] ∧
      ∃ m, (∃ o r, LineReader.run? (.ofConfig c m none 0 false) "qemu"
            ⟨.ofStream ([.bytes [0x09, 0x0A, 0x4F], .delay 700,
              .bytes [0x4B, 0x20, 0x0D, 0x0A, 0x0A]] ++ [.hang]), none, none⟩ = some o ∧
          o.report = some r ∧ r.status = .passed) ∧
        ∃ m₀, Markers.ofConfig (c.markers.without "all\nwell") = .ok m₀ ∧
          ∀ s : Stream,
            LineReader.run? (.ofConfig c m none 0 false) "qemu" ⟨.ofStream s, none, none⟩ =
              LineReader.run? (.ofConfig c m₀ none 0 false) "qemu" ⟨.ofStream s, none, none⟩ := by
  let c : Config := { markers := { pass := ["\t\nOK \r\n", "all\nwell"] } }
  have valid : c.validate = .ok () := rfl
  have plain : Stream.Plain
      [.bytes [0x09, 0x0A, 0x4F], .delay 700, .bytes [0x4B, 0x20, 0x0D, 0x0A, 0x0A]] := by
    simp [Stream.Plain]
  obtain ⟨m, hm, decides, -⟩ := printed_marker_decides valid "\t\nOK \r\n"
  obtain ⟨o, r, ho, hr, -, passes⟩ := decides (by decide) 0 false _ [.hang] "qemu" none (by decide)
    plain (by decide) (by decide) (by simp)
  obtain ⟨m', hm', -, broken⟩ := printed_marker_decides valid "all\nwell"
  obtain rfl := Except.ok.inj (hm.symm.trans hm')
  obtain ⟨m₀, hm₀, same, -⟩ := broken (by decide)
  exact ⟨c, valid, rfl, m, ⟨o, r, ho, hr, (passes (by simp [c]) (by decide)).1⟩, m₀, hm₀,
    fun s => same none 0 false "qemu" s none none⟩

/-- An accepted configuration with a fail marker that has a line feed inside, and a guest that
prints it: its output ends without a verdict. -/
theorem broken_marker_unread :
    ∃ (c : Config) (m : Markers) (o : Outcome (Playback LineReader)) (r : Report),
      c.validate = .ok () ∧ "a\nb" ∈ c.markers.fail ∧ Markers.ofConfig c.markers = .ok m ∧
      LineReader.run? (.ofConfig c m none 0 false) "qemu"
        ⟨.ofStream [.bytes (encode "a\nb" ++ [lineFeed])], none, none⟩ = some o ∧
      o.report = some r ∧ r.status = .backendError ∧ r.output = ["a", "b"] :=
  ⟨{ markers := { fail := ["a\nb"] } }, ⟨["PASS"], ["a\nb"], none, true⟩, _, _, rfl, by simp, rfl,
    rfl, rfl, rfl, rfl⟩

end Run

end GuestWatch
