import GuestWatch.Proofs.Markers.RunnerProtocol
import GuestWatch.Proofs.Text.Unquoted

/-! # Causes of failure

A line fails a run because it is a fail marker, or else because of what the runner's protocol says
about it. The reason tells which of these it was, and with it the marker or the two numbers of the
tally.
-/
namespace GuestWatch

open Runner (panicBanner Shortfall)
open Text.Quoted (quote unquote?)

/-! ## Reasons -/

namespace Reason

open Text.Decimal (digits digits_digits)

variable {text text' : String}

theorem message_marker_toList (text : String) :
    (marker text).message.toList = "fail marker ".toList ++ (quote text).toList :=
  String.toList_append

theorem message_marker_ne_panic (text : String) :
    (marker text).message ≠ kernelPanic.message := by
  intro h
  have same := congrArg String.toList h
  rw [message_marker_toList] at same
  simp [message] at same

theorem message_marker_ne_tally (text : String) (passed total : Nat) :
    (marker text).message ≠ (tally passed total).message := by
  intro h
  have same := congrArg String.toList h
  rw [message_marker_toList, message_tally_toList] at same
  -- A tally begins with a digit.
  obtain ⟨c, cs, hc⟩ := List.exists_cons_of_ne_nil (digits_digits passed).nonempty
  have digit : c.isDigit = true := (digits_digits passed).digits c (hc ▸ List.mem_cons_self)
  rw [hc] at same
  obtain ⟨rfl, -⟩ := List.cons.inj same
  exact absurd digit (by decide)

theorem message_marker_inj (h : (marker text).message = (marker text').message) : text = text' := by
  have same := congrArg String.toList h
  rw [message_marker_toList, message_marker_toList] at same
  exact Text.Quoted.quote_injective (String.toList_injective (List.append_cancel_left same))

/-- No two reasons read alike. -/
theorem message_injective : Function.Injective message := by
  intro why why' h
  cases why with
  | marker text =>
    cases why' with
    | marker text' => rw [message_marker_inj h]
    | kernelPanic => exact absurd h (message_marker_ne_panic text)
    | tally passed total => exact absurd h (message_marker_ne_tally text passed total)
  | kernelPanic =>
    cases why' with
    | marker text => exact absurd h.symm (message_marker_ne_panic text)
    | kernelPanic => rfl
    | tally passed total => exact absurd h.symm (message_tally_ne_panic passed total)
  | tally passed total =>
    cases why' with
    | marker text => exact absurd h.symm (message_marker_ne_tally text passed total)
    | kernelPanic => exact absurd h (message_tally_ne_panic passed total)
    | tally passed' total' =>
      obtain ⟨rfl, rfl⟩ := message_tally_inj h
      rfl

end Reason

/-! ## Lines that fail -/

namespace Runner

variable {line : List Char} {passed total passed' total' : Nat}

theorem Shortfall.unique (h : Shortfall line passed total) (h' : Shortfall line passed' total') :
    passed = passed' ∧ total = total' := by
  have tally := (shortfall_iff.mp h).1
  rw [(shortfall_iff.mp h').1] at tally
  cases tally
  exact ⟨rfl, rfl⟩

/-- The banner is without blanks, so taking blanks off a line leaves it in the line. -/
theorem panicBanner_infix_normalize (line : String) :
    panicBanner.toList <:+: (normalize line).toList ↔ panicBanner.toList <:+: line.toList := by
  have bare : ∀ c ∈ panicBanner.toList, Text.isBlank c = false := by
    simp [panicBanner, Text.isBlank]
  rw [normalize, String.toList_ofList]
  exact Text.infix_strip_iff (by simp [panicBanner]) bare

end Runner

namespace Markers

variable {m : Markers} {line line₁ line₂ : String} {why why' why₁ why₂ : Reason}

/-- What there is about a line when it fails for a reason. Fail markers come before the runner's
protocol. -/
def Causes (m : Markers) (line : String) : Reason → Prop
  | .marker text => normalize line ∈ m.fail ∧ text = normalize line
  | .kernelPanic => normalize line ∉ m.fail ∧ panicBanner.toList <:+: line.toList
  | .tally passed total =>
    normalize line ∉ m.fail ∧ Shortfall (normalize line).toList passed total

theorem causes_of_classify (h : m.classify line = some (.fail why)) : m.Causes line why := by
  unfold classify verdict? at h
  split at h
  · cases h
  split at h
  · next hit =>
    cases h
    exact ⟨List.contains_iff_mem.mp hit, rfl⟩
  · next miss =>
    rw [List.contains_iff_mem] at miss
    split at h
    · cases h
    split at h
    · cases h
    split at h
    · cases Runner.verdict?_eq_some.mp h with
      | panic banner => exact ⟨miss, (Runner.panicBanner_infix_normalize line).mp banner⟩
      | shortfall short => exact ⟨miss, short⟩
    · cases h

/-- A line fails for one reason only. -/
theorem Causes.unique (h : m.Causes line why) (h' : m.Causes line why') : why = why' := by
  have calm {passed total : Nat} (short : Shortfall (normalize line).toList passed total) :
      ¬ panicBanner.toList <:+: line.toList := by
    rw [← Runner.panicBanner_infix_normalize]
    exact short.tally.not_panic
  cases why with
  | marker text =>
    obtain ⟨hit, rfl⟩ := h
    cases why' with
    | marker text' => rw [h'.2]
    | kernelPanic => exact absurd hit h'.1
    | tally passed total => exact absurd hit h'.1
  | kernelPanic =>
    cases why' with
    | marker text => exact absurd h'.1 h.1
    | kernelPanic => rfl
    | tally passed total => exact absurd h.2 (calm h'.2)
  | tally passed total =>
    cases why' with
    | marker text => exact absurd h'.1 h.1
    | kernelPanic => exact absurd h'.2 (calm h.2)
    | tally passed' total' =>
      obtain ⟨rfl, rfl⟩ := h.2.unique h'.2
      rfl

/-- Lines with the same cause of failure: the same fail marker, or the banner of a kernel panic in
both, or a tally of the same two numbers. -/
inductive SameCause (m : Markers) (line₁ line₂ : String) : Prop
  | marker (hit₁ : normalize line₁ ∈ m.fail) (hit₂ : normalize line₂ ∈ m.fail)
    (same : normalize line₁ = normalize line₂) : SameCause m line₁ line₂
  | panic (miss₁ : normalize line₁ ∉ m.fail) (miss₂ : normalize line₂ ∉ m.fail)
    (banner₁ : panicBanner.toList <:+: line₁.toList)
    (banner₂ : panicBanner.toList <:+: line₂.toList) : SameCause m line₁ line₂
  | tally {passed total : Nat} (miss₁ : normalize line₁ ∉ m.fail)
    (miss₂ : normalize line₂ ∉ m.fail)
    (short₁ : Shortfall (normalize line₁).toList passed total)
    (short₂ : Shortfall (normalize line₂).toList passed total) : SameCause m line₁ line₂

theorem Causes.eq_iff (h₁ : m.Causes line₁ why₁) (h₂ : m.Causes line₂ why₂) :
    why₁ = why₂ ↔ m.SameCause line₁ line₂ := by
  constructor
  · rintro rfl
    cases why₁ with
    | marker text =>
      obtain ⟨hit₁, rfl⟩ := h₁
      exact .marker hit₁ h₂.1 h₂.2
    | kernelPanic => exact .panic h₁.1 h₂.1 h₁.2 h₂.2
    | tally passed total => exact .tally h₁.1 h₂.1 h₁.2 h₂.2
  · have shared (why : Reason) (cause₁ : m.Causes line₁ why) (cause₂ : m.Causes line₂ why) :
        why₁ = why₂ := (h₁.unique cause₁).trans (h₂.unique cause₂).symm
    intro cause
    cases cause with
    | marker hit₁ hit₂ same => exact shared (.marker (normalize line₁)) ⟨hit₁, rfl⟩ ⟨hit₂, same⟩
    | panic miss₁ miss₂ banner₁ banner₂ =>
      exact shared .kernelPanic ⟨miss₁, banner₁⟩ ⟨miss₂, banner₂⟩
    | tally miss₁ miss₂ short₁ short₂ =>
      exact shared (.tally _ _) ⟨miss₁, short₁⟩ ⟨miss₂, short₂⟩

theorem Causes.quoted (h : m.Causes line why) (hit : normalize line ∈ m.fail) :
    ∃ quoted, why.message = "fail marker " ++ quoted ∧
      unquote? quoted = some (normalize line) := by
  have marked : m.Causes line (.marker (normalize line)) := ⟨hit, rfl⟩
  rw [h.unique marked]
  exact ⟨quote (normalize line), rfl, Text.Quoted.unquote?_quote _⟩

/-- Failures have the same cause if their reasons read alike, and only then. The line can be read
back from a reason that quotes it, whatever characters are in it, and no two reasons read alike,
be they of one shape or of two. -/
theorem message_identifies_cause (fails₁ : m.classify line₁ = some (.fail why₁))
    (fails₂ : m.classify line₂ = some (.fail why₂)) :
    (why₁.message = why₂.message ↔ m.SameCause line₁ line₂) ∧
      (normalize line₁ ∈ m.fail → ∃ quoted, why₁.message = "fail marker " ++ quoted ∧
        unquote? quoted = some (normalize line₁)) ∧
      (∀ text, unquote? (quote text) = some text) ∧
      Function.Injective quote ∧ Function.Injective Reason.message := by
  have cause₁ := causes_of_classify fails₁
  have cause₂ := causes_of_classify fails₂
  refine ⟨?_, cause₁.quoted, Text.Quoted.unquote?_quote, Text.Quoted.quote_injective,
    Reason.message_injective⟩
  rw [Reason.message_injective.eq_iff, cause₁.eq_iff cause₂]

/-- A fail marker with the text of another reason. -/
theorem message_identifies_cause_disguised :
    let m : Markers := ⟨[], ["kernel panic"], none, true⟩
    ∃ why₁ why₂, m.classify "kernel panic\r" = some (.fail why₁) ∧
      m.classify ("[ 0.1] " ++ panicBanner) = some (.fail why₂) ∧
      why₁.message ≠ why₂.message ∧
      ∃ quoted, why₁.message = "fail marker " ++ quoted ∧
        unquote? quoted = some "kernel panic" := by
  intro m
  have marked : m.classify "kernel panic\r" = some (.fail (.marker "kernel panic")) := by decide
  have panicked : m.classify ("[ 0.1] " ++ panicBanner) = some (.fail .kernelPanic) := by decide
  have hit : normalize "kernel panic\r" ∈ m.fail := by decide
  have miss : normalize ("[ 0.1] " ++ panicBanner) ∉ m.fail := by decide
  obtain ⟨alike, readable, -⟩ := message_identifies_cause marked panicked
  refine ⟨_, _, marked, panicked, ?_, readable hit⟩
  intro same
  cases alike.mp same with
  | marker _ hit₂ => exact miss hit₂
  | panic miss₁ => exact miss₁ hit
  | tally miss₁ => exact miss₁ hit

end Markers

end GuestWatch
