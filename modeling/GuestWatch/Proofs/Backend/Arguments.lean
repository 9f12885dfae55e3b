import GuestWatch.Emulator
import GuestWatch.Files.Environment
import GuestWatch.Proofs.Config.Accepted
import GuestWatch.Proofs.Text.Replaced

/-! # What the emulator is told

A start looks for the kernel under its path, but the emulator is told the text of this path. Both
are the same for a path that is text. What is ill formed in any other path is replaced, so the
emulator is sent to a place that nobody has looked at, and kernels in different places can be told
alike.
-/
namespace GuestWatch

open Text

theorem Path.encode_shown_iff {p : Path} :
    Utf8.encode p.shown = p.bytes ↔ ∃ text, p = .ofText text := by
  constructor
  · intro h
    exact ⟨p.shown, by rw [ofText, h]⟩
  · rintro ⟨text, rfl⟩
    rw [shown, ofText, Utf8.decode_encode]

namespace EmulatorConfig

variable {c c' : EmulatorConfig}

theorem arguments_inj : c'.arguments = c.arguments ↔
    c'.machine = c.machine ∧ c'.kernel.shown = c.kernel.shown ∧ c'.extraArgs = c.extraArgs := by
  simp [arguments]

theorem arguments_inj_of_text {text text' : String} (h : c.kernel = .ofText text)
    (h' : c'.kernel = .ofText text') : c'.arguments = c.arguments ↔
      c'.machine = c.machine ∧ c'.kernel = c.kernel ∧ c'.extraArgs = c.extraArgs := by
  have shown (t : String) : (Path.ofText t).shown = t := Utf8.decode_encode t
  have same : c'.kernel.shown = c.kernel.shown ↔ c'.kernel = c.kernel := by
    rw [h, h', shown, shown]
    exact ⟨congrArg Path.ofText, fun same => by rw [← shown text', same, shown]⟩
  rw [arguments_inj, same]

/-- The arguments tell which kernel is meant exactly if nothing in them stands for what is ill
formed. -/
theorem arguments_determine_iff :
    (∀ c' : EmulatorConfig, c'.arguments = c.arguments → c'.kernel = c.kernel) ↔
      Utf8.replacement ∉ c.kernel.shown.toList := by
  rw [Path.shown, ← Utf8.decode_determines_iff]
  constructor
  · intro determined other same
    have told : ({ c with kernel := ⟨other⟩ } : EmulatorConfig).arguments = c.arguments :=
      arguments_inj.mpr ⟨rfl, same, rfl⟩
    exact congrArg Path.bytes (determined _ told)
  · intro determined c' told
    have same := determined c'.kernel.bytes (arguments_inj.mp told).2.1
    exact congrArg Path.mk same

end EmulatorConfig

namespace Emulator

theorem launch_eq_ok {env : Environment} {c : EmulatorConfig} {spawned : Spawned} :
    launch env c = .ok spawned ↔ ∃ program, env.findProgram c.binary = some program ∧
      env.isPresent c.kernel = true ∧ env.spawn program c.arguments = .ok spawned := by
  unfold launch
  cases env.findProgram c.binary with
  | none => simp
  | some program =>
    cases present : env.isPresent c.kernel with
    | false => simp
    | true => cases hs : env.spawn program c.arguments <;> simp [hs]

/-- A start looks for the kernel under its path and tells the emulator the text of this path, which
is the path itself exactly if this is text; what the configuration adds comes last, as it is. So
configurations whose kernel paths are text are told apart by board, kernel and what they add. The
arguments tell which of all kernels is meant exactly if they have no replacement character for
it. -/
theorem start_tells (env : Environment) (g : Emulator) :
    ((g.start env).1 = .ok () ↔ ∃ program spawned, env.findProgram g.config.binary = some program ∧
      env.isPresent g.config.kernel = true ∧
      env.spawn program g.config.arguments = .ok spawned) ∧
    (∃ told, g.config.arguments.take 4 = ["-M", g.config.machine, "-kernel", told] ∧
      (Utf8.encode told = g.config.kernel.bytes ↔ ∃ text, g.config.kernel = .ofText text)) ∧
    g.config.arguments.drop 13 = g.config.extraArgs ∧
    (∀ (c : EmulatorConfig) (text text' : String), c.kernel = .ofText text →
      g.config.kernel = .ofText text' → (c.arguments = g.config.arguments ↔
        c.machine = g.config.machine ∧ c.kernel = g.config.kernel ∧
          c.extraArgs = g.config.extraArgs)) ∧
    ((∀ c : EmulatorConfig, c.arguments = g.config.arguments → c.machine = g.config.machine ∧
        c.kernel = g.config.kernel ∧ c.extraArgs = g.config.extraArgs) ↔
      Utf8.replacement ∉ g.config.kernel.shown.toList) := by
  have started : (g.start env).1 = .ok () ↔ ∃ spawned, launch env g.config = .ok spawned := by
    cases hl : launch env g.config <;> simp [start, hl]
  refine ⟨?_, ⟨g.config.kernel.shown, rfl, Path.encode_shown_iff⟩, rfl,
    fun c text text' h h' => EmulatorConfig.arguments_inj_of_text h' h, ?_⟩
  · simp only [started, launch_eq_ok]
    exact exists_comm
  · rw [← EmulatorConfig.arguments_determine_iff]
    constructor
    · exact fun determined c told => (determined c told).2.1
    · intro determined c told
      obtain ⟨machine, -, extraArgs⟩ := EmulatorConfig.arguments_inj.mp told
      exact ⟨machine, determined c told, extraArgs⟩

/-- A kernel that is there under a path that is not text: the emulator is started, is told another
path under which nothing is, and would be told the same for another kernel. -/
theorem start_tells_replaced :
    ∃ (f : Files) (c : EmulatorConfig) (told : String), c.kernel.bytes = [0x6B, 0xFF] ∧
      ((ofConfig c).start f.environment).1 = .ok () ∧
      c.arguments.take 4 = ["-M", c.machine, "-kernel", told] ∧
      Utf8.encode told ≠ c.kernel.bytes ∧ f.environment.isPresent (.ofText told) = false ∧
      ∃ c' : EmulatorConfig, c'.kernel ≠ c.kernel ∧ c'.arguments = c.arguments := by
  let f : Files := ((⟨.directory [], [Utf8.encode "w"], .ofText "/w"⟩ : Files).add
    (.ofText "bin/qemu-system-aarch64") (.program [.writeArguments])).add ⟨[0x6B, 0xFF]⟩
    (.file [] false)
  exact ⟨f, { kernel := ⟨[0x6B, 0xFF]⟩ }, "k\uFFFD", rfl, rfl, rfl, by decide, by decide,
    { kernel := .ofText "k\uFFFD" }, by decide, rfl⟩

end Emulator

end GuestWatch
