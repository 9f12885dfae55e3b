import GuestWatch.Proofs.Backend.Runs
import GuestWatch.Proofs.Markers.NormalForms
import GuestWatch.Session

/-! # What is decided before a start

A command line and a configuration are looked at once, before anything is started. What is accepted
then is not refused later: its markers can be read, and its guest can fail to start only for what
is found at the start. What is refused leaves nothing but a complaint.
-/
namespace GuestWatch

/-! ## Markers -/

variable {c : Config} {f : Fault}

/-- The markers of an accepted configuration are normal and not empty. -/
theorem Config.Accepted.markers_normal (h : c.Accepted) {m : Markers}
    (hm : Markers.ofConfig c.markers = .ok m) :
    ∀ marker ∈ m.pass ++ m.fail, normalize marker = marker ∧ marker ≠ "" := by
  obtain ⟨expect, -, rfl⟩ := map_eq_ok.mp hm
  intro marker hmarker
  rw [← List.map_append] at hmarker
  obtain ⟨given, hg, rfl⟩ := List.mem_map.mp hmarker
  exact ⟨normalize_normalize given, h.markers given hg⟩

/-! ## Refusals -/

/-- The faults of a request that is refused. -/
def Fault.IsRefusal (f : Fault) : Prop := ∃ r, f = .invalidArgument r

theorem BaudRate.ofRate_refusal {rate : Nat} (h : ofRate rate = .error f) : f.IsRefusal := by
  unfold ofRate at h
  split at h
  · cases h
  · cases h
    exact ⟨_, rfl⟩

theorem Markers.expectPattern?_refusal {source : Option String}
    (h : expectPattern? source = .error f) : f.IsRefusal := by
  cases source with
  | none => cases h
  | some source =>
    rw [expectPattern?, expectPattern] at h
    split at h
    · cases h
    · cases h
      exact ⟨_, rfl⟩

namespace Config

theorem refuseIf_refusal {condition : Bool} {r : Refusal}
    (h : refuseIf condition r = .error f) : f.IsRefusal := by
  unfold refuseIf at h
  split at h
  · cases h
    exact ⟨r, rfl⟩
  · cases h

/-- Whatever a configuration is refused for, the fault says that the request is. -/
theorem validate_refusal (h : c.validate = .error f) : f.IsRefusal := by
  simp only [validate, bind_eq_error] at h
  obtain h | ⟨-, -, h | ⟨-, -, h | ⟨-, -, h | ⟨-, -, h | ⟨-, -, h | ⟨-, -, h⟩⟩⟩⟩⟩⟩ := h
  · exact refuseIf_refusal h
  · exact refuseIf_refusal h
  · exact BaudRate.ofRate_refusal h
  · exact refuseIf_refusal h
  · exact refuseIf_refusal h
  · exact Markers.expectPattern?_refusal h
  · cases h

end Config

namespace Settings

variable {s : Settings} {read : Path → Except String String} {base : Config}

theorem configuration_eq_ok : s.configuration read = .ok c ↔
    ∃ base, s.base read = .ok base ∧ s.applyTo base = c ∧ c.validate = .ok () := by
  simp only [configuration, bind_eq_ok]
  constructor
  · rintro ⟨base, hb, _, valid, ⟨⟩⟩
    exact ⟨base, hb, rfl, valid⟩
  · rintro ⟨base, hb, rfl, valid⟩
    exact ⟨base, hb, (), valid, rfl⟩

theorem configuration_eq_error : s.configuration read = .error f ↔
    s.base read = .error f ∨
      ∃ base, s.base read = .ok base ∧ (s.applyTo base).validate = .error f := by
  simp only [configuration, bind_eq_error]
  constructor
  · rintro (unread | ⟨base, hb, refused | ⟨-, -, ⟨⟩⟩⟩)
    · exact .inl unread
    · exact .inr ⟨base, hb, refused⟩
  · rintro (unread | ⟨base, hb, refused⟩)
    · exact .inl unread
    · exact .inr ⟨base, hb, .inl refused⟩

theorem configuration_of_invalid (hb : s.base read = .ok base)
    (h : (s.applyTo base).validate = .error f) : s.configuration read = .error f :=
  configuration_eq_error.mpr (.inr ⟨base, hb, h⟩)

end Settings

/-! ## Starts -/

namespace Backend

variable {guest : Guest} {env : Environment} {b : Backend}

theorem launch_not_refusal {e : EmulatorConfig} (h : Emulator.launch env e = .error f) :
    ¬ f.IsRefusal := by
  rintro ⟨r, rfl⟩
  unfold Emulator.launch at h
  repeat' split at h
  all_goals cases h

/-- The speed of an accepted configuration exists, so it does not keep a line from being opened. -/
theorem connect_not_refusal (h : c.Accepted) (found : connect c env guest = .error f) :
    ¬ f.IsRefusal := by
  cases guest with
  | emulated =>
    cases hl : Emulator.launch env c.emulator with
    | ok spawned => simp [connect, hl, Except.map] at found
    | error f' =>
      obtain rfl : f' = f := by simpa [connect, hl, Except.map] using found
      exact launch_not_refusal hl
  | serial device =>
    obtain ⟨speed, hs⟩ := h.speed
    rintro ⟨r, rfl⟩
    simp only [connect, SerialLine.connect, SerialLine.ofDevice, hs] at found
    split at found
    · cases found
    · cases hopen : env.openLine (.ofText device) speed <;>
        simp [hopen, bind, Except.bind, Except.map] at found

/-- No start of a backend under an accepted configuration refuses the request. -/
theorem Sound.start_not_refusal (sound : Sound c guest b) (h : c.Accepted)
    (failed : (b.start env).1 = .error f) : ¬ f.IsRefusal := by
  obtain ⟨f', found, hs⟩ | ⟨s, -, hs, -⟩ := sound.start_cases env
  · rw [hs] at failed
    obtain rfl : f' = f := Except.error.inj failed
    exact connect_not_refusal h found
  · rw [hs] at failed
    cases failed

end Backend

/-! ## Sessions -/

namespace Session

variable {s : Session} {calledAs : String} {args : List Options.Arg} {o : Options} {m : Markers}

theorem run?_of_declined {f : Usage.Fault} (h : Options.ofArgs calledAs args = .error f) :
    s.run? calledAs args = some (declined f) := by rw [run?, h]

theorem run?_of_refused (ho : Options.ofArgs calledAs args = .ok o)
    (h : o.configuration s.environment.readText = .error f) :
    s.run? calledAs args = some (refused f) := by simp only [run?, ho, h]

theorem run?_of_accepted (ho : Options.ofArgs calledAs args = .ok o)
    (hc : o.configuration s.environment.readText = .ok c)
    (hm : Markers.ofConfig c.markers = .ok m) : s.run? calledAs args = s.launch o c m := by
  simp only [run?, ho, hc, hm]

/-- The run that a session launches. -/
def guestRun? (s : Session) (o : Options) (c : Config) (m : Markers) :
    Option (Run.Outcome Backend) :=
  (Guest.select o.guest).run? s.environment c m (s.interruptionFor o.toSettings) s.clock o.echo

/-- A report with the time that a session shows. -/
def timed (s : Session) (r : Report) : Report := { r with elapsedMs := s.shownTime r.elapsedMs }

theorem launch_reported {outcome : Run.Outcome Backend} {r : Report}
    (ran : s.guestRun? o c m = some outcome) (hr : outcome.report = some r) :
    s.launch o c m = some ((reported o.toSettings (s.timed r)).after outcome.shown) := by
  rw [guestRun?] at ran
  simp only [launch, ran, Option.map_some, hr]
  rfl

theorem launch_broken {outcome : Run.Outcome Backend}
    (ran : s.guestRun? o c m = some outcome) (hr : outcome.report = none) :
    s.launch o c m = some (broken.after outcome.shown) := by
  rw [guestRun?] at ran
  simp only [launch, ran, Option.map_some, hr]

/-- A launch comes to an end, and not with the exit code of a refusal. -/
theorem launch_exitCode (h : c.Accepted) (s : Session) (o : Options) (m : Markers) :
    ∃ out, s.launch o c m = some out ∧ out.exitCode ≠ refusedCode := by
  obtain ⟨outcome, ran⟩ : ∃ outcome, s.guestRun? o c m = some outcome := Guest.run?_ends h ..
  cases hr : outcome.report with
  | none =>
    have code : brokenCode ≠ refusedCode := by decide
    exact ⟨_, launch_broken ran hr, code⟩
  | some r =>
    refine ⟨_, launch_reported ran hr, fun code => ?_⟩
    have refused : r.exitCode = 64 := code
    have : r.exitCode ≤ 3 := r.exitCode_le
    omega

/-- A session that is not refused leaves another exit code than one that is. -/
theorem run?_exitCode (s : Session) (calledAs : String) (args : List Options.Arg) :
    ∃ out, s.run? calledAs args = some out ∧ (out.exitCode = refusedCode ↔
      (∃ f, Options.ofArgs calledAs args = .error f ∧ f.isAnswer = false) ∨
      ∃ o f, Options.ofArgs calledAs args = .ok o ∧
        o.configuration s.environment.readText = .error f) := by
  cases ho : Options.ofArgs calledAs args with
  | error f =>
    refine ⟨_, run?_of_declined ho, ?_⟩
    cases answer : f.isAnswer <;> simp [declined, answer, refusedCode]
  | ok o =>
    cases hc : o.configuration s.environment.readText with
    | error f => exact ⟨_, run?_of_refused ho hc, by simp [refused, hc]⟩
    | ok c =>
      obtain ⟨base, -, -, valid⟩ := Settings.configuration_eq_ok.mp hc
      have accepted := Config.validate_eq_ok.mp valid
      obtain ⟨m, hm⟩ := accepted.markers_ofConfig
      obtain ⟨out, launched, code⟩ := launch_exitCode accepted s o m
      exact ⟨out, (run?_of_accepted ho hc hm).trans launched, by simp [code, hc]⟩

/-- An accepted configuration is not refused any more. Its markers can be read, and are normal and
not empty; and no start of its guest's backend, whatever has been asked of it before, says that the
request is wrong. So a session ends with the exit code of a refusal exactly if its command line
cannot be read and asks for no help, or its configuration is refused; the second look at the
markers finds nothing. A configuration that is not accepted is refused as a request, whatever the
guest, its surroundings and the interruption are. -/
theorem acceptance_decides :
    (∀ c : Config, c.validate = .ok () →
      (∃ m, Markers.ofConfig c.markers = .ok m ∧
        ∀ marker ∈ m.pass ++ m.fail, normalize marker = marker ∧ marker ≠ "") ∧
      ∀ name requests responses b,
        (Backend.ofGuest c (Guest.select name)).serveAll requests = (responses, b) →
          ∀ env f b', b.start env = (.error f, b') → ∀ r, f ≠ .invalidArgument r) ∧
    (∀ (s : Session) (calledAs : String) (args : List Options.Arg),
      (∃ out, s.run? calledAs args = some out ∧ (out.exitCode = 64 ↔
        (∃ f, Options.ofArgs calledAs args = .error f ∧ f.isAnswer = false) ∨
        ∃ o f, Options.ofArgs calledAs args = .ok o ∧
          o.configuration s.environment.readText = .error f)) ∧
      ∀ o c, Options.ofArgs calledAs args = .ok o →
        o.configuration s.environment.readText = .ok c →
          ∃ m, Markers.ofConfig c.markers = .ok m ∧ s.run? calledAs args = s.launch o c m) ∧
    ∀ (c : Config) (f : Fault), c.validate = .error f →
      (∃ r, f = .invalidArgument r) ∧
      ∀ (s : Settings) read base, s.base read = .ok base → s.applyTo base = c →
        s.configuration read = .error f ∧
        ∀ o calledAs args, Options.ofArgs calledAs args = .ok o → o.toSettings = s →
          ∀ session : Session, session.environment.readText = read →
            session.run? calledAs args = some (refused f) ∧ (refused f).exitCode = 64 ∧
              (refused f).output = "" ∧ (refused f).file = none := by
  refine ⟨fun c h => ?_, fun s calledAs args => ⟨s.run?_exitCode calledAs args, ?_⟩, ?_⟩
  · have accepted := Config.validate_eq_ok.mp h
    obtain ⟨m, hm⟩ := accepted.markers_ofConfig
    refine ⟨⟨m, hm, accepted.markers_normal hm⟩, ?_⟩
    rintro name requests responses b served env f b' failed r rfl
    have sound := ((Backend.Sound.ofGuest c (Guest.select name)).serveAll requests).1
    rw [served] at sound
    exact sound.start_not_refusal accepted (congrArg Prod.fst failed) ⟨r, rfl⟩
  · intro o c ho hc
    obtain ⟨base, -, -, valid⟩ := Settings.configuration_eq_ok.mp hc
    obtain ⟨m, hm⟩ := (Config.validate_eq_ok.mp valid).markers_ofConfig
    exact ⟨m, hm, run?_of_accepted ho hc hm⟩
  · rintro c f h
    refine ⟨Config.validate_refusal h, ?_⟩
    rintro s read base hb rfl
    have refused := Settings.configuration_of_invalid hb h
    refine ⟨refused, ?_⟩
    rintro o calledAs args ho rfl session rfl
    exact ⟨run?_of_refused ho refused, rfl, rfl, rfl⟩

/-- An emulator whose kernel is not found, and a timeout of zero that an option asks for. -/
theorem acceptance_decides_zeroTimeout :
    ((Backend.ofGuest .default .emulated).start (Backend.unstoppable false)).1 =
        .error (.deviceNotFound Config.default.emulator.kernel) ∧
      (∀ r, Fault.deviceNotFound Config.default.emulator.kernel ≠ .invalidArgument r) ∧
      ∀ session : Session, session.environment.readText = (Backend.unstoppable true).readText →
        session.run? "test-host" (["-t", "0", "qemu"].map Text.Utf8.encode) =
          some (refused (.invalidArgument .zeroTimeout)) := by
  obtain ⟨accepted, -, rejected⟩ := acceptance_decides
  refine ⟨rfl, ?_, fun session hs => ?_⟩
  · exact (accepted .default rfl).2 "qemu" [] [] _ rfl (Backend.unstoppable false) _ _ rfl
  · obtain ⟨-, refuses⟩ := rejected { timeoutSecs := 0 } (.invalidArgument .zeroTimeout) rfl
    obtain ⟨-, sessions⟩ := refuses { timeout := some 0 } (Backend.unstoppable true).readText
      .default rfl rfl
    exact (sessions ⟨{ timeout := some 0 }, "qemu"⟩ "test-host" _ rfl rfl session hs).1

end Session

end GuestWatch
