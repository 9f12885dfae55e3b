import GuestWatch.Proofs.LineReader.Reading
import GuestWatch.Proofs.Run.Termination

/-! # Runs of scripts and streams

Scripts and streams are used up by reading, so a run that plays one comes to its end under every
configuration that validation accepts. It leaves a report if the guest could not be started or the
clock, with what it shows then, can tell the deadline. A deadline beyond the clock is noticed only
after the start, and the guest is then not stopped.
-/
namespace GuestWatch

variable {σ : Type}

theorem Playback.operations_drains {read : σ → Nat → Reading × Nat × σ} {rank : σ → Nat}
    (h : ∀ {s s' wait took answer}, read s wait = (.ok answer, took, s') →
      rank s' < rank s ∨ answer = none ∧ rank s' ≤ rank s ∧ wait ≤ took) :
    (operations read).Drains (fun s => rank s.source) := by
  intro s s' wait took answer hs
  exact h (operations_read hs)

theorem Script.read_uses {s s' : Script} {wait took : Nat} {answer : Option String}
    (h : s.read wait = (.ok answer, took, s')) :
    s'.length < s.length ∨ answer = none ∧ s'.length ≤ s.length ∧ wait ≤ took := by
  cases s with
  | nil =>
    cases h
    exact .inr ⟨rfl, Nat.le_refl _, Nat.le_refl _⟩
  | cons step rest =>
    have shorter : rest.length < (step :: rest).length := Nat.lt_succ_self _
    cases step with
    | line text =>
      cases h
      exact .inl shorter
    | silence =>
      cases h
      exact .inl shorter
    | after ms text =>
      by_cases soon : ms ≤ wait
      · rw [read, if_pos soon] at h
        cases h
        exact .inl shorter
      · rw [read, if_neg soon] at h
        cases h
        exact .inr ⟨rfl, Nat.le_refl _, Nat.le_refl _⟩
    | late ms text =>
      cases h
      exact .inl shorter
    | failure f => cases h

theorem Script.run?_ends {p : Run.Plan} (hl : 0 < p.lineTimeoutMs) (guest : String)
    (s : Playback Script) : ∃ o, Script.run? p guest s = some o := by
  have drains : (Playback.operations Script.read).Drains (·.source.length) :=
    Playback.operations_drains Script.read_uses
  exact Run.run?_ends drains hl guest (Nat.le_refl _)

theorem LineReader.run?_ends {p : Run.Plan} (hl : 0 < p.lineTimeoutMs) (guest : String)
    (s : Playback LineReader) : ∃ o, LineReader.run? p guest s = some o := by
  have drains : (Playback.operations LineReader.nextLine).Drains (·.source.rank) :=
    Playback.operations_drains LineReader.nextLine_uses
  exact Run.run?_ends drains hl guest s.source.rank_le_answers

namespace Run

variable {p : Plan} {ops : Operations σ} {w w' : Watch σ} {c : Config}

/-- A read that is told to wait for some time, for no longer than the whole run may take. -/
def Call.WaitsWithin (p : Plan) : Call → Prop
  | .read wait _ => 0 < wait ∧ wait ≤ p.lineTimeoutMs ∧ wait ≤ p.timeoutMs
  | _ => False

/-- A watch that has asked for nothing since the start but reads that may wait. -/
def Watch.OnlyReads (p : Plan) (w : Watch σ) : Prop :=
  ∃ reads, w.calls = reads ++ [.start] ∧ ∀ call ∈ reads, call.WaitsWithin p

theorem Plan.waitAt_within (hl : 0 < p.lineTimeoutMs) {now : Nat} (early : now < p.timeoutMs)
    (abandoned : Bool) : (Call.read (p.waitAt now) abandoned).WaitsWithin p := by
  simp only [Call.WaitsWithin, waitAt]
  omega

theorem Watch.OnlyReads.ask (h : w.OnlyReads p) {call : Call} (hc : call.WaitsWithin p)
    (hw : w'.calls = call :: w.calls) : w'.OnlyReads p := by
  obtain ⟨reads, hr, within⟩ := h
  exact ⟨call :: reads, by rw [hw, hr]; rfl, List.forall_mem_cons.mpr ⟨hc, within⟩⟩

theorem Watch.OnlyReads.turn (hl : 0 < p.lineTimeoutMs) {e : Option Ending} (h : w.OnlyReads p)
    (ht : Turn ops p w w' e) : w'.OnlyReads p := by
  cases ht with
  | expired _ => exact h
  | cancelled _ _ => exact h
  | abandoned _ _ _ early _ _ _ => exact h.ask (Plan.waitAt_within hl early true) rfl
  | failed _ _ _ read => exact h.ask (Plan.waitAt_within hl read.early false) rfl
  | silent _ _ read => exact h.ask (Plan.waitAt_within hl read.early false) rfl
  | decided _ _ _ _ read _ => exact h.ask (Plan.waitAt_within hl read.early false) rfl
  | heard _ _ _ read _ => exact h.ask (Plan.waitAt_within hl read.early false) rfl

theorem watch_onlyReads (hl : 0 < p.lineTimeoutMs) {fuel : Nat} {e : Ending} {s : σ}
    (h : watch ops p (.fresh s) fuel = some (w, e)) : w.OnlyReads p :=
  watch_induction (Watch.OnlyReads.turn hl) (Watch.OnlyReads.turn hl) ⟨[], rfl, by simp⟩ h

/-- How a run under a configuration ends, by what its guest answers to the start and what the clock
shows then. -/
structure Outcome.Settled (c : Config) (p : Plan) (onStart : Option Fault) (o : Outcome σ) :
    Prop where
  unstarted : onStart ≠ none → (∃ r, o.report = some r) ∧ o.calls = [.start]
  stopped : onStart = none → p.clock + c.timeoutMs < clockEnd → (∃ r, o.report = some r) ∧
    ∃ reads, o.calls = .start :: reads ++ [.stop] ∧ ∀ call ∈ reads, call.WaitsWithin p
  overrun : onStart = none → clockEnd ≤ p.clock + c.timeoutMs →
    o.report = none ∧ o.calls = [.start]

theorem Plan.deadlineFits_ofConfig (c : Config) (m : Markers) (cancelAt : Option Nat)
    (clock : Nat) (echo : Bool) :
    (ofConfig c m cancelAt clock echo).deadlineFits = true ↔ clock + c.timeoutMs < clockEnd :=
  decide_eq_true_iff

theorem settled_of_run? {read : σ → Nat → Reading × Nat × σ} {m : Markers}
    {cancelAt : Option Nat} {clock : Nat} {echo : Bool} {guest : String} {s : Playback σ}
    {fuel : Nat} {o : Outcome (Playback σ)} (hl : 0 < c.lineTimeoutMs.toNat)
    (h : run? (Playback.operations read) (.ofConfig c m cancelAt clock echo) guest s fuel =
      some o) :
    o.Settled c (.ofConfig c m cancelAt clock echo) s.onStart := by
  have fits := Plan.deadlineFits_ofConfig c m cancelAt clock echo
  obtain ⟨f, s', hs, rfl⟩ | ⟨s', hs, hp, rfl⟩ | ⟨s', w, e, hs, hp, hw, rfl⟩ := run?_cases h
  · have hf : s.onStart = some f := Playback.answer_eq_error.mp (Prod.mk.inj hs).1
    exact ⟨fun _ => ⟨⟨_, rfl⟩, rfl⟩, by simp [hf], by simp [hf]⟩
  · have hn : s.onStart = none := Playback.answer_eq_ok.mp (Prod.mk.inj hs).1
    refine ⟨(absurd hn ·), fun _ within => ?_, fun _ _ => ⟨rfl, rfl⟩⟩
    rw [fits.mpr within] at hp
    cases hp
  · have hn : s.onStart = none := Playback.answer_eq_ok.mp (Prod.mk.inj hs).1
    refine ⟨(absurd hn ·), fun _ _ => ⟨⟨_, rfl⟩, ?_⟩, fun _ beyond => ?_⟩
    · obtain ⟨reads, hr, within⟩ := watch_onlyReads hl hw
      refine ⟨reads.reverse, by simp [Watch.conclude, hr], fun call hc => ?_⟩
      exact within call (List.mem_reverse.mp hc)
    · exact absurd beyond (Nat.not_le.mpr (fits.mp hp))

/-- Every run of a script or a stream under an accepted configuration comes to its end. It leaves
a report, and a started guest stopped once at the very end, exactly when the guest could not be
started or the clock can count from what it shows then to the deadline. -/
theorem accepted_runs (h : c.validate = .ok ()) :
    ∃ m, Markers.ofConfig c.markers = .ok m ∧
      ∀ (cancelAt : Option Nat) (clock : Nat) (echo : Bool) (guest : String),
      (∀ s : Playback Script, ∃ o,
        Script.run? (.ofConfig c m cancelAt clock echo) guest s = some o ∧
        o.Settled c (.ofConfig c m cancelAt clock echo) s.onStart) ∧
      ∀ s : Playback LineReader, ∃ o,
        LineReader.run? (.ofConfig c m cancelAt clock echo) guest s = some o ∧
        o.Settled c (.ofConfig c m cancelAt clock echo) s.onStart := by
  have accepted := Config.validate_eq_ok.mp h
  have hl := accepted.lineTimeoutMs_pos
  obtain ⟨m, hm⟩ := accepted.markers_ofConfig
  refine ⟨m, hm, fun cancelAt clock echo guest => ⟨fun s => ?_, fun s => ?_⟩⟩
  · obtain ⟨o, ho⟩ := Script.run?_ends (p := .ofConfig c m cancelAt clock echo) hl guest s
    exact ⟨o, ho, settled_of_run? hl ho⟩
  · obtain ⟨o, ho⟩ := LineReader.run?_ends (p := .ofConfig c m cancelAt clock echo) hl guest s
    exact ⟨o, ho, settled_of_run? hl ho⟩

/-- A minute on a clock that shows three hours, and on one that comes to its end after a minute. -/
theorem accepted_runs_default : Config.default.validate = .ok () ∧
    ∃ m, Markers.ofConfig Config.default.markers = .ok m ∧
      (∃ o, Script.run? (.ofConfig .default m (some 500) 10800000 false) "qemu"
          ⟨[.line "PASS"], none, none⟩ = some o ∧
        (∃ r, o.report = some r) ∧ ∃ reads, o.calls = .start :: reads ++ [.stop]) ∧
      ∃ o, Script.run? (.ofConfig .default m (some 500) (clockEnd - 60000) false) "qemu"
          ⟨[.line "PASS"], none, none⟩ = some o ∧
        o.report = none ∧ o.calls = [.start] := by
  have fits : 10800000 + Config.default.timeoutMs < clockEnd := by decide
  have beyond : clockEnd ≤ clockEnd - 60000 + Config.default.timeoutMs := by decide
  obtain ⟨m, hm, h⟩ := accepted_runs (c := .default) rfl
  obtain ⟨o, ho, settled⟩ := (h (some 500) 10800000 false "qemu").1 ⟨[.line "PASS"], none, none⟩
  obtain ⟨report, reads, hr, -⟩ := settled.stopped rfl fits
  obtain ⟨o', ho', settled'⟩ := (h (some 500) (clockEnd - 60000) false "qemu").1
    ⟨[.line "PASS"], none, none⟩
  exact ⟨rfl, m, hm, ⟨o, ho, report, reads, hr⟩, o', ho', settled'.overrun rfl beyond⟩

/-- The longest timeout that can be written down is accepted, and its deadline is beyond the clock
whatever that shows. -/
theorem longest_timeout_overruns :
    ∃ c m, c.validate = .ok () ∧ Markers.ofConfig c.markers = .ok m ∧
      ∀ (clock : Nat) (echo : Bool),
        Script.run? (.ofConfig c m none clock echo) "qemu" ⟨[.line "PASS"], none, none⟩ =
          some ⟨none, [.start], ⟨[.line "PASS"], none, none⟩, ""⟩ := by
  let c : Config := { timeoutSecs := 0xFFFFFFFFFFFFFFFF }
  have beyond : clockEnd ≤ c.timeoutMs := by decide
  refine ⟨c, .default, rfl, rfl, fun clock echo => run?_of_unfit _ rfl ?_⟩
  rw [Bool.eq_false_iff, ne_eq, Plan.deadlineFits_ofConfig, Nat.not_lt]
  exact Nat.le_add_left_of_le beyond

end Run

end GuestWatch
