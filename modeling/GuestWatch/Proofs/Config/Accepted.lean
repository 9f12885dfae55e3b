import GuestWatch.Config.Validation

/-! # What acceptance says about a configuration

Validation refuses with its first reason, so a configuration is accepted exactly when no reason
applies. An accepted configuration has markers to run with.
-/
namespace GuestWatch

theorem bind_eq_ok {ε α β : Type} {x : Except ε α} {f : α → Except ε β} {b : β} :
    x >>= f = .ok b ↔ ∃ a, x = .ok a ∧ f a = .ok b := by
  cases x with
  | error e => simp [bind, Except.bind]
  | ok a => simp [bind, Except.bind]

theorem bind_eq_error {ε α β : Type} {x : Except ε α} {f : α → Except ε β} {e : ε} :
    x >>= f = .error e ↔ x = .error e ∨ ∃ a, x = .ok a ∧ f a = .error e := by
  cases x with
  | error e' => simp [bind, Except.bind]
  | ok a => simp [bind, Except.bind]

theorem map_eq_ok {ε α β : Type} {x : Except ε α} {f : α → β} {b : β} :
    x.map f = .ok b ↔ ∃ a, x = .ok a ∧ f a = b := by
  cases x with
  | error e => simp [Except.map]
  | ok a => simp [Except.map]

namespace Config

@[simp] theorem refuseIf_eq_ok {condition : Bool} {r : Refusal} {u : Unit} :
    refuseIf condition r = .ok u ↔ condition = false := by
  cases condition <;> simp [refuseIf]

/-- No reason to refuse a configuration applies. -/
structure Accepted (c : Config) : Prop where
  timeout : c.timeoutSecs ≠ 0
  lineTimeout : c.lineTimeoutMs ≠ 0
  speed : ∃ b, BaudRate.ofRate c.serial.baudRate.toNat = .ok b
  binary : c.emulator.binary ≠ ""
  markers : ∀ marker ∈ c.markers.pass ++ c.markers.fail, normalize marker ≠ ""
  pattern : ∃ e, Markers.expectPattern? c.markers.expect = .ok e

theorem validate_eq_ok {c : Config} : c.validate = .ok () ↔ c.Accepted := by
  simp only [validate, bind_eq_ok, refuseIf_eq_ok, beq_eq_false_iff_ne, ne_eq, List.any_eq_false,
    isBlankMarker, beq_iff_eq]
  constructor
  · rintro ⟨_, timeout, _, lineTimeout, b, speed, _, binary, _, markers, e, pattern, _⟩
    exact ⟨timeout, lineTimeout, ⟨b, speed⟩, binary, markers, ⟨e, pattern⟩⟩
  · rintro ⟨timeout, lineTimeout, ⟨b, speed⟩, binary, markers, ⟨e, pattern⟩⟩
    exact ⟨(), timeout, (), lineTimeout, b, speed, (), binary, (), markers, e, pattern, rfl⟩

namespace Accepted

variable {c : Config}

theorem lineTimeoutMs_pos (h : c.Accepted) : 0 < c.lineTimeoutMs.toNat :=
  Nat.pos_of_ne_zero fun h0 => h.lineTimeout (UInt64.toNat_inj.mp h0)

theorem timeoutMs_pos (h : c.Accepted) : 0 < c.timeoutMs := by
  have secs : 0 < c.timeoutSecs.toNat :=
    Nat.pos_of_ne_zero fun h0 => h.timeout (UInt64.toNat_inj.mp h0)
  simp only [timeoutMs]
  omega

/-- Only the expected pattern can keep markers from being read, and it has been looked at. -/
theorem markers_ofConfig (h : c.Accepted) : ∃ m, Markers.ofConfig c.markers = .ok m := by
  obtain ⟨e, pattern⟩ := h.pattern
  exact ⟨_, map_eq_ok.mpr ⟨e, pattern, rfl⟩⟩

end Accepted

end Config

end GuestWatch
