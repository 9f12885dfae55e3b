import GuestWatch.Proofs.Run.Course
import GuestWatch.Script

/-! # The verdict of a run

A run writes down every line that it hears and stops at the first that decides. Its report agrees
with what it has written down: the run passed or failed exactly if the last line says so, for the
reason that this line gives, and no other line decides.
-/
namespace GuestWatch

theorem Fault.status_ne_passed (f : Fault) : f.status ≠ .passed := by cases f <;> simp [status]

theorem Fault.status_ne_failed (f : Fault) : f.status ≠ .failed := by cases f <;> simp [status]

namespace Run

variable {m : Markers} {e : Ending} {output : List String}

theorem Ending.status_eq_passed : e.status = .passed ↔ e = .decided .pass := by
  cases e with
  | decided v => cases v <;> simp [status]
  | fault f => simp [status, Fault.status_ne_passed]
  | interrupted => simp [status]

theorem Ending.status_eq_failed : e.status = .failed ↔ ∃ why, e = .decided (.fail why) := by
  cases e with
  | decided v => cases v <;> simp [status]
  | fault f => simp [status, Fault.status_ne_failed]
  | interrupted => simp [status]

theorem Ending.message_eq_none : e.message = none ↔ e.status = .passed := by
  rw [status_eq_passed]
  cases e with
  | decided v => cases v <;> simp [message]
  | fault f => simp [message]
  | interrupted => simp [message]

/-- An ending that agrees with the lines heard before it, in order. -/
inductive Ending.Fits (m : Markers) : List String → Ending → Prop
  | decided {earlier : List String} {line : String} {v : Verdict}
    (before : ∀ text ∈ earlier, m.classify text = none) (verdict : m.classify line = some v) :
    Fits m (earlier ++ [line]) (.decided v)
  | other {output : List String} {e : Ending} (never : ∀ text ∈ output, m.classify text = none)
    (other : ∀ v, e ≠ .decided v) : Fits m output e

/-- The last line decides a run exactly if the run ends with its verdict. -/
theorem Ending.Fits.last_iff (h : e.Fits m output) {v : Verdict} :
    (∃ line, output.getLast? = some line ∧ m.classify line = some v) ↔ e = .decided v := by
  cases h with
  | decided before verdict => simp [verdict]
  | other never other =>
    refine ⟨?_, (absurd · (other v))⟩
    rintro ⟨line, last, verdict⟩
    rw [never line (List.mem_of_getLast? last)] at verdict
    cases verdict

theorem Ending.Fits.passed_iff (h : e.Fits m output) : e.status = .passed ↔
    ∃ line, output.getLast? = some line ∧ m.classify line = some .pass :=
  Ending.status_eq_passed.trans h.last_iff.symm

theorem Ending.Fits.failed_iff (h : e.Fits m output) (text : String) :
    e.status = .failed ∧ e.message = some text ↔
      ∃ line why, output.getLast? = some line ∧ m.classify line = some (.fail why) ∧
        why.message = text := by
  constructor
  · rintro ⟨status, message⟩
    obtain ⟨why, rfl⟩ := Ending.status_eq_failed.mp status
    obtain ⟨line, last, verdict⟩ := h.last_iff.mpr rfl
    exact ⟨line, why, last, verdict, Option.some.inj message⟩
  · rintro ⟨line, why, last, verdict, rfl⟩
    obtain rfl := h.last_iff.mp ⟨line, last, verdict⟩
    exact ⟨rfl, rfl⟩

theorem Ending.Fits.before (h : e.Fits m output) :
    ∀ line ∈ output.dropLast, m.classify line = none := by
  cases h with
  | decided before verdict => simpa using before
  | other never _ => exact fun line hl => never line ((List.dropLast_sublist _).subset hl)

theorem Ending.Fits.never (h : e.Fits m output) (hp : e.status ≠ .passed)
    (hf : e.status ≠ .failed) : ∀ line ∈ output, m.classify line = none := by
  cases h with
  | @decided earlier line v before verdict =>
    cases v with
    | pass => exact absurd rfl hp
    | fail why => exact absurd rfl hf
  | other never _ => exact never

theorem classify_of_undecided {xs : List Exchange} (h : ∀ x ∈ xs, x.Undecided m) :
    ∀ line ∈ xs.filterMap Exchange.line?, m.classify line = none := by
  intro line hl
  obtain ⟨x, hx, line?⟩ := List.mem_filterMap.mp hl
  obtain ⟨heard, answer, undecided⟩ := h x hx
  rw [Exchange.line?_of_ok answer] at line?
  exact undecided line line?

theorem Closing.fits {p : Plan} {xs : List Exchange} {now : Nat} (h : Closing p xs now e) :
    e.Fits p.markers (xs.filterMap Exchange.line?).reverse := by
  have undecided {xs : List Exchange} (hx : ∀ x ∈ xs, x.Undecided p.markers) :
      ∀ line ∈ (xs.filterMap Exchange.line?).reverse, p.markers.classify line = none :=
    fun line hl => classify_of_undecided hx line (List.mem_reverse.mp hl)
  cases h with
  | expired hx _ => exact .other (undecided hx) (by simp)
  | interrupted hx _ => exact .other (undecided hx) (by simp)
  | failed hx answer =>
    rw [List.filterMap_cons_none (Exchange.line?_of_error answer)]
    exact .other (undecided hx) (by simp)
  | decided hx answer verdict =>
    rw [List.filterMap_cons_some (Exchange.line?_of_ok answer), List.reverse_cons]
    exact .decided (undecided hx) verdict

variable {σ : Type} {ops : Operations σ} {p : Plan} {guest : String} {s : σ} {fuel : Nat}
  {o : Outcome σ} {r : Report}

/-- Every report agrees with its run. A guest that could not be started has not been read. After a
start the output is what the guest has given in its answered reads, by its own record; no line
before the last decides; and the run passed, or failed for a reason, exactly if the last line says
so. The stages are those that the run went through, and none follows a final one. -/
theorem report_agrees (h : run? ops p guest s fuel = some o) (hr : o.report = some r) :
    (∀ f, (ops.start s).1 = .error f →
      o.calls = [.start] ∧ r.output = [] ∧ r.status = f.status ∧ r.message = some f.message ∧
        r.stages = [.notStarted, .finished f.status]) ∧
    ((ops.start s).1 = .ok () →
      (∃ xs ended e, Course ops p guest s fuel o xs ended e ∧
        r.output = xs.filterMap Exchange.line?) ∧
      (∀ line ∈ r.output.dropLast, p.markers.classify line = none) ∧
      (r.status = .passed ↔
        ∃ line, r.output.getLast? = some line ∧ p.markers.classify line = some .pass) ∧
      (∀ text, r.status = .failed ∧ r.message = some text ↔
        ∃ line why, r.output.getLast? = some line ∧
          p.markers.classify line = some (.fail why) ∧ why.message = text) ∧
      (r.status ≠ .passed → r.status ≠ .failed →
        ∀ line ∈ r.output, p.markers.classify line = none) ∧
      r.stages = [.notStarted, .running, .finished r.status]) ∧
    (r.message = none ↔ r.status = .passed) ∧ r.exitCode = r.status.exitCode ∧
    ∀ stage ∈ r.stages.dropLast, stage.isFinal = false := by
  rcases hs : ops.start s with ⟨answer, s'⟩
  cases answer with
  | error f =>
    rw [run?_of_start_error ops hs] at h
    cases h
    cases hr
    refine ⟨?_, by simp, ?_, rfl, ?_⟩
    · rintro f' ⟨⟩
      exact ⟨rfl, rfl, rfl, rfl, rfl⟩
    · simpa [unstarted, Report.ofOutcome, Report.withStages] using f.status_ne_passed
    · simp [unstarted, Report.withStages, Stage.isFinal]
  | ok _ =>
    obtain ⟨w, e, complete, course, rfl, -⟩ := run?_course h hr (by rw [hs])
    have output : (finished guest w e).output = w.guest.2.reverse.filterMap Exchange.line? := by
      rw [List.filterMap_reverse, ← complete.output]
      rfl
    have fits : e.Fits p.markers (finished guest w e).output := by
      rw [output, List.filterMap_reverse]
      exact complete.closing.fits
    refine ⟨by simp, fun _ => ⟨⟨_, _, _, course, output⟩, fits.before, fits.passed_iff,
      fits.failed_iff, fits.never, rfl⟩, Ending.message_eq_none, rfl, ?_⟩
    simp [finished, Report.withStages, Stage.isFinal]

/-- A late line, a fail marker between blanks, and a pass marker that is not read any more. -/
theorem report_agrees_failed :
    ∃ o r, run? (Playback.operations Script.read) ⟨2000, 1000, .default, none, 0, false⟩ "qemu"
        ⟨[.silence, .late 1500 (some "boot"), .line " FAIL\r", .line "PASS"], none, none⟩ 5 =
          some o ∧ o.report = some r ∧ r.output = ["boot", " FAIL\r"] ∧ r.status = .failed ∧
      ∃ line why, r.output.getLast? = some line ∧
        Markers.default.classify line = some (.fail why) ∧ r.message = some why.message := by
  refine ⟨_, _, rfl, rfl, rfl, rfl, ?_⟩
  obtain ⟨-, started, -⟩ := @report_agrees _ (Playback.operations Script.read)
    ⟨2000, 1000, .default, none, 0, false⟩ "qemu"
    ⟨[.silence, .late 1500 (some "boot"), .line " FAIL\r", .line "PASS"], none, none⟩ 5 _ _ rfl rfl
  obtain ⟨-, -, -, failed, -, -⟩ := started rfl
  obtain ⟨line, why, last, verdict, text⟩ := (failed _).mp ⟨rfl, rfl⟩
  exact ⟨line, why, last, verdict, text ▸ rfl⟩

end Run

end GuestWatch
