import GuestWatch.Config.Printer
import GuestWatch.Proofs.Config.Documents
import GuestWatch.Proofs.Json.Printed
import GuestWatch.Proofs.Text.Encoded

/-! # Printed configurations

What is printed of a configuration is read as this configuration. So different configurations are
printed differently.
-/
namespace GuestWatch

open Json (Datum Slot Value)

theorem Path.text?_eq_some {p : Path} {s : String} : p.text? = some s ↔ p = .ofText s := by
  rw [Path.text?, Text.Utf8.decode?_eq_some, Path.ofText, Path.mk.injEq, eq_comm]

theorem EmulatorConfig.exists_means {c : EmulatorConfig} {v : Value} (h : c.toValue? = some v) :
    ∃ d, v.Means d ∧ Fits d c := by
  obtain ⟨k, hk, rfl⟩ := Option.map_eq_some_iff.mp h
  have kernel := Path.text?_eq_some.mp hk
  have fits : List.Forall₂ (fun (k : Slot EmulatorConfig) d => k.fits d (k.get c)) layout.slots
      [.text c.binary, .text c.machine, .text k, .texts c.extraArgs, .ofUInt64 c.stopGraceMs] :=
    .cons rfl (.cons rfl (.cons ⟨k, rfl, kernel.symm⟩ (.cons rfl (.cons rfl .nil))))
  refine ⟨_, .object ?_, layout.fits_object fits⟩
  exact .cons .text (.cons .text (.cons .text (.cons (Value.means_texts _) (.cons .natural .nil))))

theorem SerialConfig.exists_means (c : SerialConfig) : ∃ d, c.toValue.Means d ∧ Fits d c := by
  have fits : List.Forall₂ (fun (k : Slot SerialConfig) d => k.fits d (k.get c)) layout.slots
      [.ofUInt32 c.baudRate] := .cons rfl .nil
  exact ⟨_, .object (.cons .natural .nil), layout.fits_object fits⟩

theorem MarkerConfig.exists_means (c : MarkerConfig) : ∃ d, c.toValue.Means d ∧ Fits d c := by
  have fits : List.Forall₂ (fun (k : Slot MarkerConfig) d => k.fits d (k.get c)) layout.slots
      [.texts c.pass, .texts c.fail, .ofText? c.expect, .bool c.runnerProtocol] :=
    .cons rfl (.cons rfl (.cons rfl (.cons rfl .nil)))
  refine ⟨_, .object ?_, layout.fits_object fits⟩
  exact .cons (Value.means_texts _) (.cons (Value.means_texts _)
    (.cons (Value.means_ofText? _) (.cons .bool .nil)))

namespace Config

variable {c c' : Config} {v v' : Value}

theorem exists_means (h : c.toValue? = some v) : ∃ d, v.Means d ∧ Fits d c := by
  obtain ⟨emulator, he, rfl⟩ := Option.map_eq_some_iff.mp h
  obtain ⟨d₁, means₁, fits₁⟩ := EmulatorConfig.exists_means he
  obtain ⟨d₂, means₂, fits₂⟩ := SerialConfig.exists_means c.serial
  obtain ⟨d₃, means₃, fits₃⟩ := MarkerConfig.exists_means c.markers
  have fits : List.Forall₂ (fun (k : Slot Config) d => k.fits d (k.get c)) layout.slots
      [.ofUInt64 c.timeoutSecs, .ofUInt64 c.lineTimeoutMs, d₁, d₂, d₃] :=
    .cons rfl (.cons rfl (.cons fits₁ (.cons fits₂ (.cons fits₃ .nil))))
  refine ⟨_, .object ?_, layout.fits_object fits⟩
  exact .cons .natural (.cons .natural (.cons means₁ (.cons means₂ (.cons means₃ .nil))))

theorem ofText_printed (h : c.toValue? = some v) : ∀ text ∈ [v.compact, v.pretty],
    ofText text = .ok c := by
  obtain ⟨d, means, fits⟩ := exists_means h
  have read (layout : Value.Layout) : ofText (String.ofList (v.chars layout)) = .ok c := by
    apply ofText_eq_ok.mpr
    refine ⟨d, ?_, fits⟩
    rw [String.toList_ofList]
    exact means.isDocument layout
  simp only [List.forall_mem_cons]
  exact ⟨read .compact, read (.pretty 0), by simp⟩

/-- A configuration can be printed if its kernel path is text. -/
theorem exists_toValue? {kernel : String} (h : c.emulator.kernel = .ofText kernel) :
    ∃ v, c.toValue? = some v := by
  have text : c.emulator.kernel.text? = some kernel := Path.text?_eq_some.mpr h
  simp [toValue?, EmulatorConfig.toValue?, text]

/-- A configuration whose kernel path is text is printed, over one line or more, as a text that is
read as this configuration. No other configuration is printed as one of these texts. -/
theorem ofText_toValue {kernel : String} (h : c.emulator.kernel = .ofText kernel) :
    ∃ v, c.toValue? = some v ∧ ofText v.compact = .ok c ∧ ofText v.pretty = .ok c ∧
      ∀ c' v', c'.toValue? = some v' →
        (∃ text ∈ [v'.compact, v'.pretty], text ∈ [v.compact, v.pretty]) → c' = c := by
  obtain ⟨v, hv⟩ := exists_toValue? h
  have read := ofText_printed hv
  refine ⟨v, hv, read _ (by simp), read _ (by simp), ?_⟩
  rintro c' v' hv' ⟨text, first, second⟩
  have same : Except.ok c' = (Except.ok c : Except Fault Config) := by
    rw [← ofText_printed hv' text first, read text second]
  exact Except.ok.inj same

/-- A configuration with the largest time, an empty list, and texts that need escapes of each kind
and a character beyond four hexadecimal digits. -/
theorem ofText_toValue_escaped :
    ∃ c : Config, c = { timeoutSecs := 18446744073709551615
                        emulator := { binary := "\x01\"\\", kernel := .ofText "𝄞\x1f" }
                        markers := { pass := [], expect := some "\n/" } } ∧
      c.emulator.kernel = .ofText "𝄞\x1f" ∧
      ∃ v, c.toValue? = some v ∧ ofText v.compact = .ok c ∧ ofText v.pretty = .ok c ∧
        ∀ c' v', c'.toValue? = some v' →
          (∃ text ∈ [v'.compact, v'.pretty], text ∈ [v.compact, v.pretty]) → c' = c :=
  ⟨_, rfl, rfl, ofText_toValue rfl⟩

end Config

end GuestWatch
