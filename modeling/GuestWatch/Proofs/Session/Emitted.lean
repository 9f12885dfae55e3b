import GuestWatch.Files.Session
import GuestWatch.Proofs.Files.Written
import GuestWatch.Proofs.Session.Acceptance
import GuestWatch.Proofs.Session.Reported
import GuestWatch.Proofs.Text.Encoded

/-! # What a session emits

The exit code, the output and the file of a session are those of the report of its run. What the run
has shown while it lasted is the output of its report; lines are unbroken, so that they can be had
back by a cut at the line feeds. A file that cannot be written changes nothing else, and a session
that is refused leaves nothing but a complaint.
-/
namespace GuestWatch

/-! ## Lines on the output -/

namespace Session

/-- Lines, each with a line feed after it. -/
def lines (output : List String) : String := String.join (output.map (· ++ "\n"))

theorem encode_lines_cons (line : String) (output : List String) :
    Text.Utf8.encode (lines (line :: output)) =
      Text.Utf8.encode line ++ lineFeed :: Text.Utf8.encode (lines output) := by
  have newline : Text.Utf8.encodeChars ['\n'] = [lineFeed] := by decide
  have cut : (lines (line :: output)).toList =
      line.toList ++ (['\n'] ++ (lines output).toList) := by
    simp [lines, String.toList_join]
  rw [Text.Utf8.encode, cut, Text.Utf8.encodeChars_append, Text.Utf8.encodeChars_append, newline]
  rfl

/-- The octets of unbroken lines, cut at their line feeds, are those of the lines. -/
theorem pieces_lines {output : List String} (h : ∀ line ∈ output, '\n' ∉ line.toList) :
    pieces (Text.Utf8.encode (lines output)) = output.map Text.Utf8.encode := by
  induction output with
  | nil => rfl
  | cons line output ih =>
    obtain ⟨first, rest⟩ := List.forall_mem_cons.mp h
    have unbroken : lineFeed ∉ Text.Utf8.encode line :=
      fun hm => first (Text.Utf8.lineFeed_mem_encodeChars.mp hm)
    rw [encode_lines_cons, pieces_append_lineFeed unbroken, ih rest, List.map_cons]

theorem decode_pieces_lines {output : List String} (h : ∀ line ∈ output, '\n' ∉ line.toList) :
    (pieces (Text.Utf8.encode (lines output))).map Text.Utf8.decode = output := by
  rw [pieces_lines h, List.map_map]
  exact List.map_id'' Text.Utf8.decode_encode output

end Session

/-! ## Files -/

namespace Files

variable {f : Files} {left : Session.Outcome}

theorem keep_of_none (h : left.file = none) : f.keep left = f := by rw [keep, h]

theorem keep_of_error {path : Path} {text : String} {e : Fault} (h : left.file = some (path, text))
    (he : f.write path (Text.Utf8.encode text) = .error e) : f.keep left = f := by
  simp only [keep, h, he]
  rfl

theorem keep_of_ok {path : Path} {text : String} {f' : Files} (h : left.file = some (path, text))
    (ho : f.write path (Text.Utf8.encode text) = .ok f') : f.keep left = f' := by
  simp only [keep, h, ho]
  rfl

end Files

/-- What a session leaves of a report: its exit code, its output, and the tree of files after it.
The written form of the report is a document that says the report, laid out over lines. Only what is
written to a device or a terminal cannot be read again. -/
structure Emits (s : Settings) (r : Report) (before : Files) (left : Session.Outcome)
    (after : Files) : Prop where
  exitCode : left.exitCode = r.exitCode ∧ r.exitCode ≤ 3
  document : ∀ d, Json.IsDocument r.text.toList d ↔ d = r.datum
  layout : r.text = "\n".intercalate r.lines
  shown : s.json = false → s.quiet = false →
    left.output = String.join (r.output.map (· ++ "\n")) ∧
      (pieces (Text.Utf8.encode left.output)).map Text.Utf8.decode = r.output
  silent : s.json = false → s.quiet = true → left.output = ""
  printed : s.json = true → left.output = r.text ++ "\n"
  unwanted : s.report = none → after = before
  failed : ∀ path e, s.report = some path →
    before.write path (Text.Utf8.encode r.text) = .error e → after = before
  written : ∀ path f, s.report = some path →
    before.write path (Text.Utf8.encode r.text) = .ok f →
      after = f ∧ ((∀ n, before.get path = .ok n → n.keeps = true) →
        after.read path = .ok (Text.Utf8.encode r.text))

/-- A session emits the report of its run after what the run has shown. -/
theorem reported_emits (s : Settings) {r : Report} {p : Run.Plan} (echo : p.echo = s.echo)
    (unbroken : ∀ line ∈ r.output, '\n' ∉ line.toList) (f : Files) {left : Session.Outcome}
    (h : left = (Session.reported s r).after (p.echoed r.output)) :
    Emits s r f left (f.keep left) := by
  have output : left.output =
      p.echoed r.output ++ if s.json = true then r.text ++ "\n" else "" := by
    rw [h]
    rfl
  have file : left.file = s.report.map fun path => (path, r.text) := by
    rw [h]
    rfl
  constructor
  case exitCode =>
    rw [h]
    exact ⟨rfl, r.exitCode_le⟩
  case document => exact fun d => Report.isDocument_text
  case layout => exact r.text_eq_lines
  case shown =>
    intro json quiet
    have shown : p.echoed r.output = Session.lines r.output :=
      Run.Plan.echoed_of_echo (by simp [echo, Settings.echo, json, quiet]) r.output
    have same : left.output = Session.lines r.output := by simp [output, shown, json]
    rw [same]
    exact ⟨rfl, Session.decode_pieces_lines unbroken⟩
  case silent =>
    intro json quiet
    rw [output, Run.Plan.echoed_of_quiet (by simp [echo, Settings.echo, quiet])]
    simp [json]
  case printed =>
    intro json
    rw [output, Run.Plan.echoed_of_quiet (by simp [echo, Settings.echo, json])]
    simp [json]
  case unwanted => exact fun unnamed => Files.keep_of_none (by simp [file, unnamed])
  case failed => exact fun path e named => Files.keep_of_error (by simp [file, named])
  case written =>
    intro path f' named ok
    have kept : f.keep left = f' := Files.keep_of_ok (by simp [file, named]) ok
    exact ⟨kept, fun regular => kept ▸ Files.read_write ok regular⟩

namespace Files

variable {f : Files} {i : Interruption} {shownTime : UInt64 → UInt64} {clock : Nat}
  {calledAs : String} {args : List Options.Arg} {o : Options} {c : Config}

/-- A session among files. -/
def among (f : Files) (i : Interruption) (shownTime : UInt64 → UInt64) (clock : Nat) : Session :=
  ⟨f.environment, i, shownTime, clock⟩

theorem session?_eq {left : Session.Outcome}
    (h : (f.among i shownTime clock).run? calledAs args = some left) :
    f.session? i shownTime clock calledAs args = some (left, f.keep left) := by
  rw [among] at h
  simp only [session?, h, Option.map_some]

/-- The output of a run are the lines that its guest gave while it lasted, none if it could not be
started. -/
structure Heard (s : Session) (o : Options) (c : Config) (m : Markers)
    (outcome : Run.Outcome Backend) (output : List String) : Prop where
  unstarted : ∀ fault, ((Backend.ofGuest c (Guest.select o.guest)).start s.environment).1 =
    .error fault → output = []
  answered : ((Backend.ofGuest c (Guest.select o.guest)).start s.environment).1 = .ok () →
    ∃ xs, (Guest.select o.guest).Answers s.environment c m (s.interruptionFor o.toSettings)
      s.clock o.echo outcome xs ∧ output = xs.filterMap Exchange.line?

/-- A session whose command line and configuration are accepted runs its guest. If the run leaves a
report, the session emits it. -/
theorem session?_accepted (ho : Options.ofArgs calledAs args = .ok o)
    (hc : o.configuration f.environment.readText = .ok c) :
    ∃ m outcome left after, Markers.ofConfig c.markers = .ok m ∧
      (f.among i shownTime clock).guestRun? o c m = some outcome ∧
      f.session? i shownTime clock calledAs args = some (left, after) ∧
      ∀ r, outcome.report = some r →
        Heard (f.among i shownTime clock) o c m outcome r.output ∧
        Emits o.toSettings ((f.among i shownTime clock).timed r) f left after := by
  obtain ⟨base, -, -, valid⟩ := Settings.configuration_eq_ok.mp hc
  have accepted := Config.validate_eq_ok.mp valid
  obtain ⟨m, hm⟩ := accepted.markers_ofConfig
  obtain ⟨outcome, ran⟩ : ∃ outcome, (f.among i shownTime clock).guestRun? o c m = some outcome :=
    Guest.run?_ends accepted ..
  have launch : (f.among i shownTime clock).run? calledAs args =
      (f.among i shownTime clock).launch o c m := Session.run?_of_accepted ho hc hm
  cases hr : outcome.report with
  | none =>
    rw [Session.launch_broken ran hr] at launch
    exact ⟨m, outcome, _, _, hm, ran, session?_eq launch, by simp [hr]⟩
  | some r =>
    rw [Session.launch_reported ran hr] at launch
    refine ⟨m, outcome, _, _, hm, ran, session?_eq launch, ?_⟩
    rintro r' hr'
    obtain rfl := Option.some.inj (hr.symm.trans hr')
    rw [Guest.shown_eq ran hr]
    have unbroken := Guest.output_unbroken ran hr
    exact ⟨⟨fun _ failed => Guest.output_unstarted ran hr failed, Guest.output_answers ran hr⟩,
      reported_emits (r := (f.among i shownTime clock).timed r) _ rfl unbroken f rfl⟩

/-- What a session emits. If its command line and configuration are accepted and its run leaves a
report, then this is the report's: the output are the lines that the guest gave while the run
lasted, or nothing, or the written form of the report, and the file is that form. If they are not,
it is an answer or nothing, the tree is as it was, and the surroundings have not been asked for
anything but the texts of files. -/
theorem session_emits (f : Files) (i : Interruption) (shownTime : UInt64 → UInt64) (clock : Nat)
    (calledAs : String) (args : List Options.Arg) :
    (∀ o c, Options.ofArgs calledAs args = .ok o →
      o.configuration f.environment.readText = .ok c →
      ∃ m outcome left after, Markers.ofConfig c.markers = .ok m ∧
        (f.among i shownTime clock).guestRun? o c m = some outcome ∧
        f.session? i shownTime clock calledAs args = some (left, after) ∧
        ∀ r, outcome.report = some r →
          Heard (f.among i shownTime clock) o c m outcome r.output ∧
          Emits o.toSettings ((f.among i shownTime clock).timed r) f left after) ∧
    (∀ fault, Options.ofArgs calledAs args = .error fault →
      ∃ left, f.session? i shownTime clock calledAs args = some (left, f) ∧ left.file = none ∧
        (fault.isAnswer = true → left.exitCode = 0) ∧
        (fault.isAnswer = false → left.exitCode = 64 ∧ left.output = "") ∧
        ∀ s : Session, s.run? calledAs args = some left) ∧
    ∀ o fault, Options.ofArgs calledAs args = .ok o →
      o.configuration f.environment.readText = .error fault →
      ∃ left, f.session? i shownTime clock calledAs args = some (left, f) ∧ left.file = none ∧
        left.exitCode = 64 ∧ left.output = "" ∧
        ∀ s : Session, s.environment.readText = f.environment.readText →
          s.run? calledAs args = some left := by
  refine ⟨fun o c ho hc => session?_accepted ho hc, fun fault ho => ?_, fun o fault ho hc => ?_⟩
  · have noFile : (Session.declined fault).file = none := by
      unfold Session.declined
      split <;> rfl
    refine ⟨Session.declined fault, ?_, noFile, fun answer => ?_, fun complaint => ?_,
      fun s => Session.run?_of_declined ho⟩
    · rw [session?_eq (Session.run?_of_declined ho), keep_of_none noFile]
    · simp [Session.declined, answer]
    · simp [Session.declined, complaint, Session.refusedCode]
  · refine ⟨Session.refused fault, ?_, rfl, rfl, rfl, fun s texts => ?_⟩
    · rw [session?_eq (Session.run?_of_refused ho hc), keep_of_none rfl]
    · exact Session.run?_of_refused ho (texts ▸ hc)

/-- A directory with an emulator that writes two lines, and with its kernel. -/
def bench : Files :=
  ((⟨.directory [], [Text.Utf8.encode "w"], .ofText "/w"⟩ : Files).add
    (.ofText "bin/qemu-system-aarch64")
    (.program [.write (Text.Utf8.encode "boot\r\nPASS\n")])).add
    (.ofText "build/kernel8.img") (.file [] false)

/-- A session that shows two lines and writes its report to a file, and one that is refused. -/
theorem session_emits_passed :
    (∃ left after, ∃ r : Report, bench.session? .never id 0 "test-host"
        (["--report", "r.json", "qemu"].map Text.Utf8.encode) = some (left, after) ∧
      left.exitCode = 0 ∧ left.output = "boot\nPASS\n" ∧ r.output = ["boot", "PASS"] ∧
      after.read (.ofText "r.json") = .ok (Text.Utf8.encode r.text)) ∧
    ∃ left, bench.session? .never id 0 "test-host" (["--baud"].map Text.Utf8.encode) =
      some (left, bench) ∧ left.exitCode = 64 ∧ left.output = "" := by
  constructor
  · obtain ⟨accepted, -, -⟩ := session_emits bench .never id 0 "test-host"
      (["--report", "r.json", "qemu"].map Text.Utf8.encode)
    obtain ⟨m, outcome, left, after, hm, ran, hs, emitted⟩ :=
      accepted ⟨{ report := some (.ofText "r.json") }, "qemu"⟩ .default rfl rfl
    obtain rfl : m = .default := by cases hm; rfl
    obtain ⟨r, hr, code, output⟩ : ∃ r, outcome.report = some r ∧ r.exitCode = 0 ∧
        r.output = ["boot", "PASS"] := by
      cases ran
      exact ⟨_, rfl, rfl, rfl⟩
    obtain ⟨-, emits⟩ := emitted r hr
    have made (content : List UInt8) : bench.write (.ofText "r.json") content =
        .ok (bench.put (["w", "r.json"].map Text.Utf8.encode) (.file content false)) := rfl
    have absent : bench.get (.ofText "r.json") = .error .noEntry := rfl
    have written := (emits.written _ _ rfl (made _)).2 (by simp [absent])
    have shown : left.output = Session.lines r.output := (emits.shown rfl rfl).1
    refine ⟨left, after, _, hs, emits.exitCode.1.trans code, ?_, output, written⟩
    rw [shown, output]
    rfl
  · obtain ⟨-, declined, -⟩ := session_emits bench .never id 0 "test-host"
      (["--baud"].map Text.Utf8.encode)
    obtain ⟨left, hs, -, -, complaint, -⟩ := declined (.missingValue .baud) rfl
    exact ⟨left, hs, complaint rfl⟩

end Files

end GuestWatch
