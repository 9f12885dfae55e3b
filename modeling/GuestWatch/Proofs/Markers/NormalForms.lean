import GuestWatch.LineReader
import GuestWatch.Markers
import GuestWatch.Proofs.Text.Stripped

/-! # Normal forms

A verdict depends on the normal forms of the line and of the markers only. Blanks at the ends of a
line make no difference to it, nor do the carriage returns that a reader takes off, nor the order of
markers and how often they are given.
-/
namespace GuestWatch

open Text (isBlank)

variable {front line back line₁ line₂ : String} {c₁ c₂ : MarkerConfig} {m₁ m₂ : Markers}

@[simp] theorem normalize_normalize (line : String) :
    normalize (normalize line) = normalize line := by
  simp only [normalize, String.toList_ofList, Text.trim, Text.strip_strip]

theorem normalize_append (first : ∀ c ∈ front.toList, isBlank c = true)
    (last : ∀ c ∈ back.toList, isBlank c = true) :
    normalize (front ++ line ++ back) = normalize line := by
  simp only [normalize, String.toList_append, Text.trim, Text.strip_append first last]

/-- A reader takes off nothing but blanks. -/
theorem normalize_lineText (bytes : List UInt8) :
    normalize (lineText bytes) = normalize (Text.Utf8.decode bytes) := by
  have first (c : Char) (h : (c == '\r') = true) : isBlank c = true := by
    rw [eq_of_beq h]
    decide
  have last (c : Char) (h : (c == '\n' || c == '\r') = true) : isBlank c = true := by
    rcases Bool.or_eq_true_iff.mp h with feed | ret
    · rw [eq_of_beq feed]
      decide
    · exact first c ret
  simp only [normalize, lineText, Text.Utf8.decode, String.toList_ofList, Text.trim,
    Text.strip_dropWhile first, Text.strip_dropTail last]

namespace Markers

/-- Markers that are the same but for their order and how often they are given. -/
structure Alike (m₁ m₂ : Markers) : Prop where
  pass : ∀ text, text ∈ m₁.pass ↔ text ∈ m₂.pass
  fail : ∀ text, text ∈ m₁.fail ↔ text ∈ m₂.fail
  expect : m₁.expect = m₂.expect
  runnerProtocol : m₁.runnerProtocol = m₂.runnerProtocol

theorem Alike.verdict? (h : Alike m₁ m₂) (line : String) : m₁.verdict? line = m₂.verdict? line := by
  simp only [Markers.verdict?, List.contains_iff_mem, h.pass, h.fail, h.expect, h.runnerProtocol]

theorem Alike.classify (h : Alike m₁ m₂) (same : normalize line₁ = normalize line₂) :
    m₁.classify line₁ = m₂.classify line₂ := by
  rw [Markers.classify, Markers.classify, same, h.verdict?]

theorem classify_of_blank (m : Markers) (h : normalize line = "") : m.classify line = none := by
  rw [classify, h, verdict?, if_pos rfl]

/-- Configurations with the same normal forms give markers that are alike, or the same fault. -/
theorem ofConfig_alike (expect : c₁.expect = c₂.expect)
    (runnerProtocol : c₁.runnerProtocol = c₂.runnerProtocol)
    (pass : ∀ text, text ∈ c₁.pass.map normalize ↔ text ∈ c₂.pass.map normalize)
    (fail : ∀ text, text ∈ c₁.fail.map normalize ↔ text ∈ c₂.fail.map normalize) :
    (∃ f, ofConfig c₁ = .error f ∧ ofConfig c₂ = .error f) ∨
      ∃ m₁ m₂, ofConfig c₁ = .ok m₁ ∧ ofConfig c₂ = .ok m₂ ∧ Alike m₁ m₂ := by
  simp only [ofConfig, expect]
  cases expectPattern? c₂.expect with
  | error f => exact .inl ⟨f, rfl, rfl⟩
  | ok p => exact .inr ⟨_, _, rfl, rfl, pass, fail, rfl, runnerProtocol⟩

/-- Configurations whose markers have the same normal forms decide alike on lines with the same
normal form, down to the reason, or neither has markers to decide with. So blanks at the ends of a
line make no difference, and it makes none whether a reader has taken off some of them; a line of
nothing but blanks decides nothing. -/
theorem classify_normal_forms (expect : c₁.expect = c₂.expect)
    (runnerProtocol : c₁.runnerProtocol = c₂.runnerProtocol)
    (pass : ∀ text, text ∈ c₁.pass.map normalize ↔ text ∈ c₂.pass.map normalize)
    (fail : ∀ text, text ∈ c₁.fail.map normalize ↔ text ∈ c₂.fail.map normalize)
    (same : normalize line₁ = normalize line₂) :
    (ofConfig c₁).map (·.classify line₁) = (ofConfig c₂).map (·.classify line₂) ∧
      (∀ line, normalize (normalize line) = normalize line) ∧
      (∀ (m : Markers) (front line back : String),
        (∀ c ∈ front.toList ++ back.toList, isBlank c = true ∨ c = '\r') →
          m.classify (front ++ line ++ back) = m.classify line) ∧
      (∀ (m : Markers) (line : String), normalize line = "" → m.classify line = none) ∧
      ∀ (m : Markers) (bytes : List UInt8),
        m.classify (lineText bytes) = m.classify (Text.Utf8.decode bytes) := by
  refine ⟨?_, normalize_normalize, ?_, ?_, ?_⟩
  · obtain ⟨f, h₁, h₂⟩ | ⟨m₁, m₂, h₁, h₂, alike⟩ := ofConfig_alike expect runnerProtocol pass fail
    · rw [h₁, h₂]
      rfl
    · rw [h₁, h₂]
      exact congrArg Except.ok (alike.classify same)
  · intro m front line back padding
    have blank : ∀ c ∈ front.toList ++ back.toList, isBlank c = true := by
      intro c hc
      rcases padding c hc with blank | rfl
      · exact blank
      · decide
    obtain ⟨first, last⟩ := List.forall_mem_append.mp blank
    rw [classify, normalize_append first last, classify]
  · intro m line blank
    exact m.classify_of_blank blank
  · intro m bytes
    rw [classify, normalize_lineText, classify]

/-- Markers in another order, with blanks and given twice. -/
theorem classify_normal_forms_padded :
    (ofConfig { pass := ["\tOK", "DONE", "OK\r"] }).map (·.classify "OK \r") =
      (ofConfig { pass := ["DONE", "OK"] }).map (·.classify "\r\tOK") ∧
      ∀ m : Markers, m.classify "\tOK\r" = m.classify "OK" := by
  have pass : ∀ text, text ∈ ["\tOK", "DONE", "OK\r"].map normalize ↔
      text ∈ ["DONE", "OK"].map normalize := by
    intro text
    have padded : normalize "\tOK" = normalize "OK" := by decide
    have returned : normalize "OK\r" = normalize "OK" := by decide
    simp only [List.map_cons, List.map_nil, padded, returned, List.mem_cons, List.not_mem_nil,
      or_false]
    tauto
  have same : normalize "OK \r" = normalize "\r\tOK" := by decide
  obtain ⟨verdicts, -, padding, -⟩ :=
    @classify_normal_forms _ _ { pass := ["\tOK", "DONE", "OK\r"] } { pass := ["DONE", "OK"] }
      rfl rfl pass (fun _ => Iff.rfl) same
  exact ⟨verdicts, fun m => padding m "\t" "OK" "\r" (by simp [isBlank])⟩

end Markers

end GuestWatch
