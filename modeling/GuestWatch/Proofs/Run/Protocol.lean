import GuestWatch.Proofs.Run.Watch
import GuestWatch.Script

/-! # What a run asks of its guest

A guest that cannot be started is asked nothing more. One that has been started is read, one read
after another, and stopped once at the very end, whichever way the run ends. Only the last read can
be given up, and only for a cancellation. How the guest takes the stop changes nothing.
-/
namespace GuestWatch

variable {σ : Type}

/-- A guest that writes down, latest first, what it has done. -/
def Operations.logged (ops : Operations σ) : Operations (σ × List Run.Call) where
  start g := ((ops.start g.1).1, (ops.start g.1).2, .start :: g.2)
  read g wait :=
    let (answer, took, guest) := ops.read g.1 wait
    (answer, took, guest, .read wait false :: g.2)
  stop g := ((ops.stop g.1).1, (ops.stop g.1).2, .stop :: g.2)

namespace Run

variable {ops : Operations σ} {p : Plan} {w w' : Watch σ}

/-- Whether a call has been answered. -/
def Call.isAnswered : Call → Bool
  | .read _ abandoned => !abandoned
  | _ => true

@[simp] theorem Call.isAnswered_start : Call.start.isAnswered = true := rfl

@[simp] theorem Call.isAnswered_stop : Call.stop.isAnswered = true := rfl

/-- Reads that have all been answered. -/
def answeredReads (waits : List Nat) : List Call := waits.map (.read · false)

/-- The calls of a watch between two of its turns. -/
def Watch.Orderly (w : Watch σ) : Prop :=
  ∃ waits, w.calls = (answeredReads waits).reverse ++ [.start]

/-- The calls of a watch that has ended, before the guest is stopped. -/
def Watch.OrderlyEnd (p : Plan) (w : Watch σ) (e : Ending) : Prop :=
  ∃ waits, w.calls = (answeredReads waits).reverse ++ [.start] ∨
    e = .interrupted ∧ (∃ c, p.cancelAt = some c) ∧
      ∃ wait, w.calls = .read wait true :: (answeredReads waits).reverse ++ [.start]

theorem Watch.Orderly.fresh (s : σ) : (Watch.fresh s).Orderly := ⟨[], rfl⟩

theorem Watch.Orderly.advance (h : w.Orderly) (wait took : Nat) (guest : σ) :
    (w.advance wait took guest).Orderly := by
  obtain ⟨waits, hw⟩ := h
  exact ⟨waits ++ [wait], by simp [Watch.advance, hw, answeredReads]⟩

theorem Watch.Orderly.turn (h : w.Orderly) (ht : Turn ops p w w' none) : w'.Orderly := by
  cases ht with
  | silent took guest _ => exact h.advance _ took guest
  | heard _ took guest _ _ => exact h.advance _ took guest

theorem Watch.Orderly.done {e : Ending} (h : w.Orderly) (ht : Turn ops p w w' (some e)) :
    w'.OrderlyEnd p e := by
  cases ht with
  | expired _ => exact h.imp fun _ hw => .inl hw
  | cancelled _ _ => exact h.imp fun _ hw => .inl hw
  | abandoned _ took _ _ _ _ come =>
    obtain ⟨waits, hw⟩ := h
    obtain ⟨c, hc, _⟩ := Plan.cancelledBy_iff.mp come
    exact ⟨waits, .inr ⟨rfl, ⟨c, hc⟩, p.waitAt w.now, by simp [Watch.abandon, hw]⟩⟩
  | failed _ took guest _ => exact (h.advance _ took guest).imp fun _ hw => .inl hw
  | decided _ _ took guest _ _ => exact (h.advance _ took guest).imp fun _ hw => .inl hw

theorem watch_orderlyEnd {fuel : Nat} {e : Ending} {s : σ}
    (h : watch ops p (.fresh s) fuel = some (w', e)) : w'.OrderlyEnd p e :=
  watch_induction Watch.Orderly.turn Watch.Orderly.done (Watch.Orderly.fresh s) h

/-- A watch over a logged guest, with the log that the guest then has. -/
def Watch.withLog (w : Watch σ) : Watch (σ × List Call) :=
  ⟨w.now, (w.guest, w.calls.filter Call.isAnswered), w.calls, w.output, w.shown⟩

theorem Watch.Answered.logged {answer : Reading} {took : Nat} {guest : σ}
    (h : w.Answered ops p answer took guest) :
    w.withLog.Answered ops.logged p answer took
      (guest, .read (p.waitAt w.now) false :: w.calls.filter Call.isAnswered) :=
  ⟨h.early, by simp [Operations.logged, withLog, h.read], h.uncancelled⟩

theorem Turn.logged {e : Option Ending} (h : Turn ops p w w' e) :
    Turn ops.logged p w.withLog w'.withLog e := by
  cases h with
  | expired late => exact .expired late
  | cancelled early come => exact .cancelled early come
  | abandoned answer took guest early before read come =>
    have hr : ops.logged.read w.withLog.guest (p.waitAt w.now) =
        (answer, took, guest, .read (p.waitAt w.now) false :: w.calls.filter Call.isAnswered) := by
      simp [Operations.logged, Watch.withLog, read]
    exact .abandoned answer took _ early before hr come
  | failed f took guest h => exact .failed f took _ h.logged
  | silent took guest h => exact .silent took _ h.logged
  | decided line v took guest h verdict => exact .decided line v took _ h.logged verdict
  | heard line took guest h verdict => exact .heard line took _ h.logged verdict

theorem watch_logged (w : Watch σ) (fuel : Nat) :
    watch ops.logged p w.withLog fuel =
      (watch ops p w fuel).map fun (w, e) => (w.withLog, e) := by
  induction fuel generalizing w with
  | zero => rfl
  | succ fuel ih =>
    have ht := (turn_spec ops p w).logged.eq
    rcases hv : turn ops p w with ⟨v, _ | e⟩
    · simp only [watch, ht, hv]
      exact ih v
    · simp only [watch, ht, hv, Option.map_some]

variable {guest : String} {s : σ} {fuel : Nat} {o : Outcome σ} {r : Report}

/-- The guest's own log holds the calls of the run, but for a read that was given up. -/
theorem run?_logged (h : run? ops p guest s fuel = some o) :
    ∃ o', run? ops.logged p guest (s, []) fuel = some o' ∧ o'.report = o.report ∧
      o'.guest.2.reverse = o.calls.filter Call.isAnswered := by
  obtain ⟨f, s', hs, rfl⟩ | ⟨s', hs, hp, rfl⟩ | ⟨s', w, e, hs, hp, hw, rfl⟩ := run?_cases h
  · have hl : ops.logged.start (s, []) = (.error f, s', [.start]) := by
      simp [Operations.logged, hs]
    exact ⟨_, run?_of_start_error _ hl, rfl, rfl⟩
  · have hl : ops.logged.start (s, []) = (.ok (), s', [.start]) := by
      simp [Operations.logged, hs]
    exact ⟨_, run?_of_unfit _ hl hp, rfl, rfl⟩
  · have hl : ops.logged.start (s, []) = (.ok (), s', [.start]) := by
      simp [Operations.logged, hs]
    have hwl : watch ops.logged p (.fresh (s', [.start])) fuel = some (w.withLog, e) :=
      (watch_logged (.fresh s') fuel).trans (by rw [hw]; rfl)
    refine ⟨w.withLog.conclude ops.logged guest e, ?_, rfl, ?_⟩
    · rw [run?_of_started _ hl hp, hwl]
      rfl
    · simp [Watch.conclude, Watch.withLog, Operations.logged, List.filter_cons]

/-- A run with another way of stopping the guest differs in the guest it leaves only. -/
theorem run?_other_stop (stop : σ → Except Fault Unit × σ)
    (h : run? ops p guest s fuel = some o) :
    ∃ o', run? { ops with stop } p guest s fuel = some o' ∧ o'.report = o.report ∧
      o'.calls = o.calls := by
  obtain ⟨f, s', hs, rfl⟩ | ⟨s', hs, hp, rfl⟩ | ⟨s', w, e, hs, hp, hw, rfl⟩ := run?_cases h
  · exact ⟨_, run?_of_start_error { ops with stop } hs, rfl, rfl⟩
  · exact ⟨_, run?_of_unfit { ops with stop } hs hp, rfl, rfl⟩
  · have hw' : watch { ops with stop } p (.fresh s') fuel = some (w, e) := by
      rw [watch_congr ops { ops with stop } rfl, hw]
    refine ⟨w.conclude { ops with stop } guest e, ?_, rfl, rfl⟩
    rw [run?_of_started { ops with stop } hs hp, hw']
    rfl

/-- The calls of every run that gives a report: one start that fails and nothing else, or one that
succeeds, then reads, of which only the last can be given up, then one stop. The guest itself sees
these calls, and the report does not depend on how the stop goes. -/
theorem calls_of_report (h : run? ops p guest s fuel = some o) (hr : o.report = some r) :
    ((∃ f, (ops.start s).1 = .error f) ∧ o.calls = [.start] ∨
      (ops.start s).1 = .ok () ∧ ∃ waits,
        o.calls = .start :: answeredReads waits ++ [.stop] ∨
        (∃ c, p.cancelAt = some c) ∧ r.message = some "run interrupted" ∧
          ∃ wait, o.calls = .start :: answeredReads waits ++ [.read wait true, .stop]) ∧
    (∃ o', run? ops.logged p guest (s, []) fuel = some o' ∧ o'.report = some r ∧
      o'.guest.2.reverse = o.calls.filter Call.isAnswered) ∧
    ∀ stop, ∃ o', run? { ops with stop } p guest s fuel = some o' ∧ o'.report = some r ∧
      o'.calls = o.calls := by
  refine ⟨?_, hr ▸ run?_logged h, fun stop => hr ▸ run?_other_stop stop h⟩
  obtain ⟨f, s', hs, rfl⟩ | ⟨s', hs, hp, rfl⟩ | ⟨s', w, e, hs, hp, hw, rfl⟩ := run?_cases h
  · exact .inl ⟨⟨f, by rw [hs]⟩, rfl⟩
  · cases hr
  · refine .inr ⟨by rw [hs], ?_⟩
    obtain ⟨waits, hc | ⟨rfl, cancel, wait, hc⟩⟩ := watch_orderlyEnd hw
    · exact ⟨waits, .inl (by simp [Watch.conclude, hc])⟩
    · refine ⟨waits, .inr ⟨cancel, ?_, wait, by simp [Watch.conclude, hc]⟩⟩
      rw [← Option.some.inj hr]
      rfl

/-- A silent guest whose second read is given up. -/
theorem calls_of_report_silent :
    ∃ o r, run? (Playback.operations Script.read) ⟨2000, 1000, .default, some 1500, 0, false⟩ "qemu"
        ⟨[], none, some .streamClosed⟩ 3 = some o ∧ o.report = some r ∧
      o.calls = [.start, .read 1000 false, .read 1000 true, .stop] ∧
      ∃ o', run? (Playback.operations Script.read).logged
          ⟨2000, 1000, .default, some 1500, 0, false⟩ "qemu"
          (⟨[], none, some .streamClosed⟩, []) 3 = some o' ∧ o'.report = some r ∧
        o'.guest.2.reverse = o.calls.filter Call.isAnswered :=
  ⟨_, _, rfl, rfl, rfl, (calls_of_report rfl rfl).2.1⟩

end Run

end GuestWatch
