import GuestWatch.Proofs.Config.RoundTrip
import GuestWatch.Proofs.Options.CommandLine
import GuestWatch.Proofs.Session.Acceptance
import Mathlib.Tactic.ByContra

/-! # Options over a file over the default configuration

The configuration of a run takes each value from the option that gives it, or else from the file, or
else from the default configuration, and adds the markers of the options to those already there. It
is looked at once, when it is complete. So what the file has wrong can be mended by options, and
values can as well be written into the file as given as options.
-/
namespace GuestWatch

namespace Settings

variable {s : Settings} {read : Path → Except String String} {base c : Config} {f : Fault}

/-- The value of an option where it is given, and another one where it is not. -/
inductive Chosen {α : Type} : Option α → α → α → Prop
  | given {value other : α} : Chosen (some value) other value
  | absent {other : α} : Chosen none other other

/-- A configuration has what the options give, and all else from `base`. -/
structure Merged (s : Settings) (base c : Config) : Prop where
  timeoutSecs : Chosen s.timeout base.timeoutSecs c.timeoutSecs
  lineTimeoutMs : Chosen s.lineTimeout base.lineTimeoutMs c.lineTimeoutMs
  binary : Chosen s.emulator base.emulator.binary c.emulator.binary
  machine : Chosen s.machine base.emulator.machine c.emulator.machine
  kernel : Chosen s.kernel base.emulator.kernel c.emulator.kernel
  baudRate : Chosen s.baud base.serial.baudRate c.serial.baudRate
  expect : Chosen (s.expect.map some) base.markers.expect c.markers.expect
  pass : c.markers.pass = base.markers.pass ++ s.passMarkers
  fail : c.markers.fail = base.markers.fail ++ s.failMarkers
  extraArgs : c.emulator.extraArgs = base.emulator.extraArgs
  stopGraceMs : c.emulator.stopGraceMs = base.emulator.stopGraceMs
  runnerProtocol : c.markers.runnerProtocol = base.markers.runnerProtocol

/-- The configuration that the options are laid over: that of the file that they name, or the
default one if they name none. -/
inductive Based (read : Path → Except String String) (s : Settings) : Config → Prop
  | default (h : s.config = none) : Based read s .default
  | file {path : Path} {text : String} {d : Json.Datum} {c : Config} (h : s.config = some path)
    (readable : read path = .ok text) (document : Json.IsDocument text.toList d)
    (fits : Config.Fits d c) : Based read s c

/-- Why there is nothing that the options could be laid over. -/
inductive Unread (read : Path → Except String String) (s : Settings) : Fault → Prop
  | file {path : Path} {reason : String} (h : s.config = some path)
    (unreadable : read path = .error reason) :
    Unread read s (.invalidArgument (.unreadableConfig path reason))
  | document {path : Path} {text : String} {f : Fault} (h : s.config = some path)
    (readable : read path = .ok text) (bad : Config.ofText text = .error f) : Unread read s f

theorem chosen_iff {α : Type} {o : Option α} {other value : α} :
    Chosen o other value ↔ o.getD other = value := by
  constructor
  · rintro (_ | _) <;> rfl
  · rintro rfl
    cases o with
    | none => exact .absent
    | some value => exact .given

theorem getD_map_some {α : Type} (o other : Option α) : (o.map some).getD other = o.or other := by
  cases o <;> rfl

theorem merged_iff : s.Merged base c ↔ s.applyTo base = c := by
  constructor
  · intro h
    have expect := chosen_iff.mp h.expect
    rw [getD_map_some] at expect
    simp only [applyTo, chosen_iff.mp h.timeoutSecs, chosen_iff.mp h.lineTimeoutMs,
      chosen_iff.mp h.binary, chosen_iff.mp h.machine, chosen_iff.mp h.kernel,
      chosen_iff.mp h.baudRate, expect, ← h.pass, ← h.fail, ← h.extraArgs, ← h.stopGraceMs,
      ← h.runnerProtocol]
  · rintro rfl
    exact
      { timeoutSecs := chosen_iff.mpr rfl
        lineTimeoutMs := chosen_iff.mpr rfl
        binary := chosen_iff.mpr rfl
        machine := chosen_iff.mpr rfl
        kernel := chosen_iff.mpr rfl
        baudRate := chosen_iff.mpr rfl
        expect := chosen_iff.mpr (getD_map_some _ _)
        pass := rfl
        fail := rfl
        extraArgs := rfl
        stopGraceMs := rfl
        runnerProtocol := rfl }

theorem based_iff : Based read s c ↔ s.base read = .ok c := by
  constructor
  · intro h
    cases h with
    | default h => rw [base, h]
    | file h readable document fits =>
      simp only [base, h, readable]
      exact Config.ofText_eq_ok.mpr ⟨_, document, fits⟩
  · intro h
    rcases hs : s.config with _ | path
    · simp only [base, hs] at h
      cases h
      exact .default hs
    · rcases hr : read path with reason | text
      · simp [base, hs, hr] at h
      · simp only [base, hs, hr] at h
        obtain ⟨d, document, fits⟩ := Config.ofText_eq_ok.mp h
        exact .file hs hr document fits

theorem unread_iff : Unread read s f ↔ s.base read = .error f := by
  constructor
  · intro h
    cases h with
    | file h unreadable => simp [base, h, unreadable]
    | document h readable bad => simp [base, h, readable, bad]
  · intro h
    rcases hs : s.config with _ | path
    · simp [base, hs] at h
    · rcases hr : read path with reason | text
      · simp only [base, hs, hr] at h
        cases h
        exact .file hs hr
      · simp only [base, hs, hr] at h
        exact .document hs hr h

/-- The same settings with a file in place of all that concerns the configuration. -/
def withFile (s : Settings) (path : Path) : Settings :=
  { config := some path, quiet := s.quiet, json := s.json, report := s.report }

theorem applyTo_withFile {path : Path} : (s.withFile path).applyTo c = c := by
  simp [applyTo, withFile]

/-- What is decided once a configuration is complete. -/
theorem configuration_of_base (h : s.base read = .ok base) :
    s.configuration read = (s.applyTo base).validate.map fun _ => s.applyTo base := by
  simp only [configuration, h]
  cases hv : (s.applyTo base).validate <;>
    simp [bind, Except.bind, hv, pure, Except.pure, Except.map]

/-- Values that are written into a file are taken as those that options give. -/
theorem configuration_withFile {read' : Path → Except String String} {path : Path} {text : String}
    {v : Json.Value} (h : s.base read = .ok base) (hv : (s.applyTo base).toValue? = some v)
    (ht : text ∈ [v.compact, v.pretty]) (hr : read' path = .ok text) :
    (s.withFile path).configuration read' = s.configuration read := by
  have based : (s.withFile path).base read' = .ok (s.applyTo base) := by
    simp only [Settings.base, withFile, hr]
    exact Config.ofText_printed hv text ht
  rw [configuration_of_base h, configuration_of_base based, applyTo_withFile]

/-! ## What options mend and what they break -/

/-- Two configurations differ at most in values that options give. -/
structure Agree (s : Settings) (a b : Config) : Prop where
  timeoutSecs : s.timeout = none → a.timeoutSecs = b.timeoutSecs
  lineTimeoutMs : s.lineTimeout = none → a.lineTimeoutMs = b.lineTimeoutMs
  binary : s.emulator = none → a.emulator.binary = b.emulator.binary
  machine : s.machine = none → a.emulator.machine = b.emulator.machine
  kernel : s.kernel = none → a.emulator.kernel = b.emulator.kernel
  baudRate : s.baud = none → a.serial.baudRate = b.serial.baudRate
  expect : s.expect = none → a.markers.expect = b.markers.expect
  pass : a.markers.pass = b.markers.pass
  fail : a.markers.fail = b.markers.fail
  extraArgs : a.emulator.extraArgs = b.emulator.extraArgs
  stopGraceMs : a.emulator.stopGraceMs = b.emulator.stopGraceMs
  runnerProtocol : a.markers.runnerProtocol = b.markers.runnerProtocol

/-- An option gives a value with which no run makes sense. -/
inductive Invalid (s : Settings) : Prop
  | timeout (h : s.timeout = some 0)
  | lineTimeout (h : s.lineTimeout = some 0)
  | baud {rate : UInt32} (h : s.baud = some rate)
    (unsupported : rate.toNat ∉ BaudRate.all.map (·.bits))
  | emulator (h : s.emulator = some "")
  | marker {m : String} (h : m ∈ s.passMarkers ++ s.failMarkers) (blank : normalize m = "")
  | expect {source : String} {r : Pattern.Refusal} (h : s.expect = some source)
    (bad : Pattern.ofText source = .error r)

theorem getD_congr {α : Type} {o : Option α} {a b : α} (h : o = none → a = b) :
    o.getD a = o.getD b := by
  cases o with
  | none => exact h rfl
  | some value => rfl

/-- Where an option gives a value it does not matter what it is laid over. -/
theorem Agree.applyTo_eq {a b : Config} (h : s.Agree a b) : s.applyTo a = s.applyTo b := by
  have expect : s.expect.or a.markers.expect = s.expect.or b.markers.expect := by
    cases he : s.expect with
    | none => exact h.expect he
    | some source => rfl
  simp only [applyTo, getD_congr h.timeoutSecs, getD_congr h.lineTimeoutMs, getD_congr h.binary,
    getD_congr h.machine, getD_congr h.kernel, getD_congr h.baudRate, expect, h.pass, h.fail,
    h.extraArgs, h.stopGraceMs, h.runnerProtocol]

theorem exists_ofRate {rate : Nat} :
    (∃ b, BaudRate.ofRate rate = .ok b) ↔ rate ∈ BaudRate.all.map (·.bits) := by
  unfold BaudRate.ofRate
  cases hf : BaudRate.all.find? fun b => b.bits == rate with
  | none =>
    constructor
    · rintro ⟨b, ⟨⟩⟩
    · intro hr
      obtain ⟨b, hb, same⟩ := List.mem_map.mp hr
      exact absurd (by simpa using same) (List.find?_eq_none.mp hf b hb)
  | some b =>
    simp only [Except.ok.injEq, exists_eq', true_iff]
    exact List.mem_map.mpr ⟨b, List.mem_of_find?_eq_some hf, by simpa using List.find?_some hf⟩

theorem exists_expectPattern {source : String} :
    (∃ p, Markers.expectPattern? (some source) = .ok p) ↔
      ∀ r, Pattern.ofText source ≠ .error r := by
  cases hp : Pattern.ofText source <;>
    simp [Markers.expectPattern?, Markers.expectPattern, hp, Except.map]

theorem getD_cases {α : Type} {p : α → Prop} {o : Option α} {other : α}
    (given : ∀ value, o = some value → p value) (absent : p other) : p (o.getD other) := by
  cases o with
  | none => exact absent
  | some value => exact given value rfl

/-- Whatever the options are laid over, an invalid one is not accepted. -/
theorem Invalid.not_accepted (h : s.Invalid) : ¬ (s.applyTo base).Accepted := by
  rintro accepted
  rcases h with ht | hl | ⟨hb, unsupported⟩ | he | ⟨hm, blank⟩ | ⟨he, bad⟩
  · exact accepted.timeout (by simp [applyTo, ht])
  · exact accepted.lineTimeout (by simp [applyTo, hl])
  · have speed := accepted.speed
    simp only [applyTo, hb, Option.getD_some] at speed
    exact unsupported (exists_ofRate.mp speed)
  · exact accepted.binary (by simp [applyTo, he])
  · refine accepted.markers _ ?_ blank
    simp only [applyTo, List.mem_append] at hm ⊢
    rcases hm with hm | hm <;> simp [hm]
  · have pattern := accepted.pattern
    simp only [applyTo, he, Option.some_or] at pattern
    exact exists_expectPattern.mp pattern _ bad

/-- Over an accepted configuration valid options are accepted. -/
theorem accepted_applyTo (h : base.Accepted) (valid : ¬ s.Invalid) :
    (s.applyTo base).Accepted where
  timeout := by
    apply getD_cases (p := (· ≠ 0)) _ h.timeout
    rintro _ given rfl
    exact valid (.timeout given)
  lineTimeout := by
    apply getD_cases (p := (· ≠ 0)) _ h.lineTimeout
    rintro _ given rfl
    exact valid (.lineTimeout given)
  speed := by
    have known (rate : UInt32) (given : s.baud = some rate) :
        ∃ b, BaudRate.ofRate rate.toNat = .ok b := by
      by_contra unsupported
      exact valid (.baud given fun known => unsupported (exists_ofRate.mpr known))
    exact getD_cases (p := fun rate : UInt32 => ∃ b, BaudRate.ofRate rate.toNat = .ok b)
      known h.speed
  binary := by
    apply getD_cases (p := (· ≠ "")) _ h.binary
    rintro _ given rfl
    exact valid (.emulator given)
  markers := by
    intro m hm blank
    have old := h.markers m
    have new : m ∈ s.passMarkers ++ s.failMarkers → False := fun hm => valid (.marker hm blank)
    simp only [applyTo, List.mem_append] at hm old new
    rcases hm with (hm | hm) | (hm | hm)
    · exact old (.inl hm) blank
    · exact new (.inl hm)
    · exact old (.inr hm) blank
    · exact new (.inr hm)
  pattern := by
    cases he : s.expect with
    | none => simpa [applyTo, he] using h.pattern
    | some source =>
      simp only [applyTo, he, Option.some_or]
      exact exists_expectPattern.mpr fun r bad => valid (.expect he bad)

/-! ## Configurations of settings -/

theorem exists_kernel_text (h : s.base read = .ok base)
    (text : ∀ p, s.kernel = some p → ∃ kernel, p = .ofText kernel) :
    ∃ kernel, (s.applyTo base).emulator.kernel = .ofText kernel := by
  refine getD_cases (p := fun p => ∃ kernel, p = Path.ofText kernel) text ?_
  cases based_iff.mpr h with
  | default => exact ⟨_, rfl⟩
  | file _ _ _ fits => exact Config.exists_kernel_text fits

/-- An option with which no run makes sense is refused, whatever the file says. -/
theorem configuration_of_invalid_option (h : s.base read = .ok base) (invalid : s.Invalid) :
    ∃ r, s.configuration read = .error (.invalidArgument r) := by
  cases hv : (s.applyTo base).validate with
  | ok => exact absurd (Config.validate_eq_ok.mp hv) invalid.not_accepted
  | error f =>
    obtain ⟨r, rfl⟩ := Config.validate_refusal hv
    exact ⟨r, configuration_of_invalid h hv⟩

/-- A value that no run makes sense with is accepted in a file if an option takes its place. -/
theorem configuration_of_mended {base' : Config} (h : s.base read = .ok base)
    (accepted : base'.Accepted) (agree : s.Agree base base') (valid : ¬ s.Invalid) :
    ∃ c, s.configuration read = .ok c := by
  refine ⟨s.applyTo base, configuration_eq_ok.mpr ⟨base, h, rfl, ?_⟩⟩
  rw [agree.applyTo_eq]
  exact Config.validate_eq_ok.mpr (accepted_applyTo accepted valid)

/-- A configuration takes each value from its option, or else from the file, or else from the
default configuration, has the markers of the options in their order on the command line after
those that were there, and is looked at when it is complete. With values that have text it does not
matter whether options or a file give them. An option can mend what the file has wrong, and can
spoil what the file has right. -/
theorem configuration_merged (s : Settings) (read : Path → Except String String) :
    (∀ c, s.configuration read = .ok c ↔
      ∃ base, Based read s base ∧ s.Merged base c ∧ c.validate = .ok ()) ∧
    (∀ f, s.configuration read = .error f ↔ Unread read s f ∨
      ∃ base c, Based read s base ∧ s.Merged base c ∧ c.validate = .error f) ∧
    (∀ calledAs args o, Options.ofArgs calledAs args = .ok o → o.toSettings = s →
      ∀ m : Options.MarkerOption, m.Lists args ((m.markers s).map Text.Utf8.encode)) ∧
    ∀ base, Based read s base →
      ((∀ p, s.kernel = some p → ∃ kernel, p = .ofText kernel) →
        ∃ c v, s.Merged base c ∧ c.toValue? = some v ∧
          ∀ text ∈ [v.compact, v.pretty], ∀ read' path, read' path = .ok text →
            (s.withFile path).configuration read' = s.configuration read) ∧
      (s.Invalid → ∃ r, s.configuration read = .error (.invalidArgument r)) ∧
      ∀ base', base'.validate = .ok () → s.Agree base base' → ¬ s.Invalid →
        ∃ c, s.configuration read = .ok c := by
  refine ⟨fun c => ?_, fun f => ?_, ?_, fun base h => ⟨fun text => ?_, fun invalid => ?_, ?_⟩⟩
  · simp only [configuration_eq_ok, based_iff, merged_iff]
  · simp only [configuration_eq_error, based_iff, merged_iff, unread_iff]
    simp
  · rintro calledAs args o parsed rfl m
    exact Options.lists_of_ofArgs parsed m
  · obtain ⟨kernel, hk⟩ := exists_kernel_text (based_iff.mp h) text
    obtain ⟨v, hv⟩ := Config.exists_toValue? hk
    refine ⟨s.applyTo base, v, merged_iff.mpr rfl, hv, ?_⟩
    intro text printed read' path written
    exact configuration_withFile (based_iff.mp h) hv printed written
  · exact configuration_of_invalid_option (based_iff.mp h) invalid
  · intro base' accepted agree valid
    exact configuration_of_mended (based_iff.mp h) (Config.validate_eq_ok.mp accepted) agree valid

/-- A file with a time of zero is refused by itself and mended by an option, and spoiled again by
another value of the option. -/
theorem configuration_merged_mended :
    ∃ (read : Path → Except String String) (args : List Options.Arg) (s : Settings),
      s = { config := some (.ofText "run.json")
            timeout := some 5
            passMarkers := ["OK", "DONE"] } ∧
      Options.ofArgs "test-host" args = .ok { s with guest := "qemu" } ∧
      Options.MarkerOption.pass.Lists args [Text.Utf8.encode "OK", Text.Utf8.encode "DONE"] ∧
      Based read s { timeoutSecs := 0 } ∧
      s.configuration read =
        .ok { timeoutSecs := 5, markers := { pass := ["PASS", "OK", "DONE"] } } ∧
      { s with timeout := none }.configuration read = .error (.invalidArgument .zeroTimeout) ∧
      (∃ r, { s with timeout := some 0 }.configuration read = .error (.invalidArgument r)) ∧
      (∃ c, s.configuration read = .ok c) ∧
      ∃ c v, s.Merged { timeoutSecs := 0 } c ∧ c.toValue? = some v ∧
        (s.withFile (.ofText "merged.json")).configuration (fun _ => .ok v.pretty) =
          s.configuration read := by
  obtain ⟨v, hv⟩ := Config.exists_toValue? (c := { timeoutSecs := 0 }) rfl
  have document : Config.ofText v.compact = .ok { timeoutSecs := 0 } :=
    Config.ofText_printed hv _ (List.mem_cons_self ..)
  have based (s : Settings) (h : s.config = some (.ofText "run.json")) :
      Based (fun _ => .ok v.compact) s { timeoutSecs := 0 } :=
    based_iff.mpr (by simp [base, h, document])
  refine ⟨fun _ => .ok v.compact, [Options.named .passMarker, Text.Utf8.encode "OK",
    Options.joined .config (Text.Utf8.encode "run.json"), Text.Utf8.encode "qemu",
    Options.joined .passMarker (Text.Utf8.encode "DONE"), Text.Utf8.encode "-t5"], _, rfl, ?_⟩
  have parsed : Options.ofArgs "test-host" [Options.named .passMarker, Text.Utf8.encode "OK",
      Options.joined .config (Text.Utf8.encode "run.json"), Text.Utf8.encode "qemu",
      Options.joined .passMarker (Text.Utf8.encode "DONE"), Text.Utf8.encode "-t5"] =
      .ok { config := some (.ofText "run.json"), timeout := some 5, passMarkers := ["OK", "DONE"],
            guest := "qemu" } := by decide
  obtain ⟨accepted, -, lists, laid⟩ := configuration_merged
    { config := some (.ofText "run.json"), timeout := some 5, passMarkers := ["OK", "DONE"] }
    fun _ => .ok v.compact
  obtain ⟨printed, -, mended⟩ := laid _ (based _ rfl)
  obtain ⟨-, refused, -, -⟩ := configuration_merged
    { config := some (.ofText "run.json"), passMarkers := ["OK", "DONE"] } fun _ => .ok v.compact
  obtain ⟨-, -, -, spoiled⟩ := configuration_merged
    { config := some (.ofText "run.json"), timeout := some 0, passMarkers := ["OK", "DONE"] }
    fun _ => .ok v.compact
  refine ⟨parsed, lists _ _ _ parsed rfl .pass, based _ rfl,
    (accepted _).mpr ⟨_, based _ rfl, merged_iff.mpr rfl, rfl⟩,
    (refused _).mpr (.inr ⟨_, _, based _ rfl, merged_iff.mpr rfl, rfl⟩),
    (spoiled _ (based _ rfl)).2.1 (.timeout rfl), mended .default rfl ?_ ?_, ?_⟩
  · constructor <;> first | rfl | exact fun _ => rfl | exact nofun
  · rintro (⟨⟨⟩⟩ | ⟨⟨⟩⟩ | ⟨⟨⟩, -⟩ | ⟨⟨⟩⟩ | ⟨hm, blank⟩ | ⟨⟨⟩, -⟩)
    simp only [List.append_nil, List.mem_cons, List.not_mem_nil, or_false] at hm
    rcases hm with rfl | rfl <;> exact absurd blank (by decide)
  · obtain ⟨c, v, merged, hv, same⟩ := printed nofun
    exact ⟨c, v, merged, hv, same _ (List.mem_cons_of_mem _ (List.mem_cons_self ..)) _ _ rfl⟩

end Settings

end GuestWatch
