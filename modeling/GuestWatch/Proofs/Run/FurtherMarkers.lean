import GuestWatch.Options.Overlay
import GuestWatch.Proofs.Config.Accepted
import GuestWatch.Proofs.Run.Verdict

/-! # Further markers

Options add markers to those of a configuration. A line that was decided before is still decided,
though perhaps another way, so a run with further markers is the same up to the first line on which
the two differ, and ends there. A further fail marker comes before everything else and can only
fail the run; a further pass marker comes after the fail markers and can only pass it.
-/
namespace GuestWatch

/-- A configuration with further markers, added as options add them. -/
def Config.addMarkers (c : Config) (pass fail : List String) : Config :=
  Settings.applyTo { passMarkers := pass, failMarkers := fail } c

namespace Markers

variable {m m' : Markers} {line : String} {v : Verdict}

/-- Markers with further ones behind them. -/
def add (m : Markers) (pass fail : List String) : Markers :=
  { m with pass := m.pass ++ pass.map normalize, fail := m.fail ++ fail.map normalize }

theorem ofConfig_addMarkers {c : Config} (h : ofConfig c.markers = .ok m)
    (pass fail : List String) :
    ofConfig (c.addMarkers pass fail).markers = .ok (m.add pass fail) := by
  obtain ⟨expect, pattern, rfl⟩ := map_eq_ok.mp h
  have same : (c.addMarkers pass fail).markers.expect = c.markers.expect := Option.none_or
  apply map_eq_ok.mpr
  refine ⟨expect, same ▸ pattern, ?_⟩
  simp [add, Config.addMarkers, Settings.applyTo]

/-- What further fail markers decide, all else being left to the others. -/
theorem classify_add_fail (m : Markers) (extra : List String) (line : String) :
    (m.add [] extra).classify line =
      if normalize line ≠ "" ∧ normalize line ∈ extra.map normalize then
        some (.fail (.marker (normalize line)))
      else m.classify line := by
  simp only [classify, verdict?, add, List.map_nil, List.append_nil, List.contains_iff_mem,
    List.mem_append]
  generalize extra.map normalize = further
  by_cases blank : normalize line = ""
  · simp [blank]
  · by_cases new : normalize line ∈ further <;> simp [blank, new]

/-- What further pass markers decide, the fail markers coming before them. -/
theorem classify_add_pass (m : Markers) (extra : List String) (line : String) :
    (m.add extra []).classify line =
      if normalize line ≠ "" ∧ normalize line ∉ m.fail ∧ normalize line ∈ extra.map normalize then
        some .pass
      else m.classify line := by
  simp only [classify, verdict?, add, List.map_nil, List.append_nil, List.contains_iff_mem,
    List.mem_append]
  generalize extra.map normalize = further
  by_cases blank : normalize line = ""
  · simp [blank]
  · by_cases fail : normalize line ∈ m.fail
    · simp [blank, fail]
    · by_cases new : normalize line ∈ further <;> simp [blank, fail, new]

/-- Markers that decide every line that other markers decide. -/
def Finer (m' m : Markers) : Prop := ∀ line, m'.classify line = none → m.classify line = none

/-- Whether markers decide a line in their own way. -/
structure Overrules (m' m : Markers) (line : String) (v : Verdict) : Prop where
  verdict : m'.classify line = some v
  other : m.classify line ≠ some v

theorem finer_add_fail (m : Markers) (extra : List String) : (m.add [] extra).Finer m := by
  intro line h
  rw [classify_add_fail] at h
  split at h
  · cases h
  · exact h

theorem finer_add_pass (m : Markers) (extra : List String) : (m.add extra []).Finer m := by
  intro line h
  rw [classify_add_pass] at h
  split at h
  · cases h
  · exact h

theorem Overrules.fail {extra : List String} (h : Overrules (m.add [] extra) m line v) :
    v = .fail (.marker (normalize line)) ∧ normalize line ∈ extra.map normalize := by
  have verdict := h.verdict
  rw [classify_add_fail] at verdict
  split at verdict
  · next further => exact ⟨(Option.some.inj verdict).symm, further.2⟩
  · exact absurd verdict h.other

theorem Overrules.pass {extra : List String} (h : Overrules (m.add extra []) m line v) :
    v = .pass ∧ normalize line ∈ extra.map normalize := by
  have verdict := h.verdict
  rw [classify_add_pass] at verdict
  split at verdict
  · next further => exact ⟨(Option.some.inj verdict).symm, further.2.2⟩
  · exact absurd verdict h.other

end Markers

namespace Run

variable {σ : Type} {ops : Operations σ} {p : Plan} {m' : Markers} {w u v : Watch σ} {e : Ending}
  {fuel : Nat}

/-- The same plan with other markers. -/
def Plan.withMarkers (p : Plan) (m : Markers) : Plan := { p with markers := m }

theorem Watch.Answered.withMarkers {answer : Reading} {took : Nat} {guest : σ}
    (h : w.Answered ops p answer took guest) (m' : Markers) :
    w.Answered ops (p.withMarkers m') answer took guest := ⟨h.early, h.read, h.uncancelled⟩

/-- A turn under other markers hears the same line, if it hears one, and otherwise is the same
turn. -/
theorem Turn.withMarkers {ending : Option Ending} (ht : Turn ops p w v ending) (m' : Markers) :
    Turn ops (p.withMarkers m') w v ending ∨ ∃ line, v.output = line :: w.output ∧
      ending = (p.markers.classify line).map .decided ∧
      Turn ops (p.withMarkers m') w v ((m'.classify line).map .decided) := by
  have heard (line : String) (took : Nat) (guest : σ)
      (h : w.Answered ops p (.ok (some line)) took guest) :
      Turn ops (p.withMarkers m') w ((w.advance (p.waitAt w.now) took guest).hear p line)
        ((m'.classify line).map .decided) := by
    cases verdict : m'.classify line with
    | none => exact .heard line took guest (h.withMarkers m') verdict
    | some v => exact .decided line v took guest (h.withMarkers m') verdict
  cases ht with
  | expired late => exact .inl (.expired late)
  | cancelled early come => exact .inl (.cancelled early come)
  | abandoned answer took guest early before read come =>
    exact .inl (.abandoned answer took guest early before read come)
  | failed f took guest h => exact .inl (.failed f took guest (h.withMarkers m'))
  | silent took guest h => exact .inl (.silent took guest (h.withMarkers m'))
  | decided line v took guest h verdict =>
    exact .inr ⟨line, rfl, by rw [verdict]; rfl, heard line took guest h⟩
  | heard line took guest h verdict =>
    exact .inr ⟨line, rfl, by rw [verdict]; rfl, heard line took guest h⟩

/-- A turn under finer markers is the same turn, unless its line is decided another way. -/
theorem Turn.finer {ending : Option Ending} (finer : m'.Finer p.markers)
    (ht : Turn ops p w v ending) :
    Turn ops (p.withMarkers m') w v ending ∨
      ∃ line verdict, Turn ops (p.withMarkers m') w v (some (.decided verdict)) ∧
        v.output.head? = some line ∧ m'.Overrules p.markers line verdict := by
  obtain same | ⟨line, output, rfl, turned⟩ := ht.withMarkers m'
  · exact .inl same
  · cases new : m'.classify line with
    | none =>
      rw [new, ← finer line new] at turned
      exact .inl turned
    | some verdict =>
      rw [new] at turned
      by_cases old : p.markers.classify line = some verdict
      · rw [old]
        exact .inl turned
      · exact .inr ⟨line, verdict, turned, by rw [output]; rfl, new, old⟩

/-- A watch under finer markers is the same watch, unless it ends at a line that they decide another
way. -/
theorem watch_finer (finer : m'.Finer p.markers) (h : watch ops p w fuel = some (u, e)) :
    watch ops (p.withMarkers m') w fuel = some (u, e) ∨
      ∃ u' line verdict, watch ops (p.withMarkers m') w fuel = some (u', .decided verdict) ∧
        u'.output <:+ u.output ∧ u'.output.head? = some line ∧
        m'.Overrules p.markers line verdict := by
  induction fuel generalizing w with
  | zero => simp [watch] at h
  | succ fuel ih =>
    have ht := turn_spec ops p w
    rcases hv : turn ops p w with ⟨v, ending⟩
    rw [hv] at ht
    have later : v.output <:+ u.output := by
      cases ending with
      | none =>
        simp only [watch, hv] at h
        exact watch_output h
      | some ending =>
        simp only [watch, hv, Option.some.injEq, Prod.mk.injEq] at h
        exact h.1 ▸ List.suffix_rfl
    obtain same | ⟨line, verdict, turned, last, overrules⟩ := ht.finer finer
    · simp only [watch, same.eq]
      cases ending with
      | none =>
        simp only [watch, hv] at h
        exact ih h
      | some ending =>
        simp only [watch, hv] at h
        exact .inl h
    · exact .inr ⟨v, line, verdict, by simp only [watch, turned.eq], later, last, overrules⟩

variable {guest : String} {s : σ} {o : Outcome σ} {r : Report}

/-- A run under finer markers leaves the same outcome, unless it ends at a line that they decide
another way. -/
theorem run?_finer (finer : m'.Finer p.markers) (h : run? ops p guest s fuel = some o)
    (hr : o.report = some r) :
    run? ops (p.withMarkers m') guest s fuel = some o ∨
      ∃ o' r' line verdict, run? ops (p.withMarkers m') guest s fuel = some o' ∧
        o'.report = some r' ∧ r'.status = (Ending.decided verdict).status ∧
        r'.output <+: r.output ∧ r'.output.getLast? = some line ∧
        m'.Overrules p.markers line verdict := by
  obtain ⟨f, s', hs, rfl⟩ | ⟨s', hs, unfit, rfl⟩ | ⟨s', w, e, hs, fits, hw, rfl⟩ := run?_cases h
  · exact .inl (run?_of_start_error ops hs)
  · cases hr
  · have fits' : (p.withMarkers m').deadlineFits = true := fits
    rw [run?_of_started ops hs fits']
    cases hr
    obtain same | ⟨u, line, verdict, ended, earlier, last, overrules⟩ := watch_finer finer hw
    · rw [same]
      exact .inl rfl
    · rw [ended]
      refine .inr ⟨_, _, line, verdict, rfl, rfl, rfl, ?_, ?_, overrules⟩
      · exact List.reverse_prefix.mpr earlier
      · exact List.getLast?_reverse.trans last

/-- Further markers whose own verdicts all have one status leave the report as it is or make the
run end with that status, at a line that is one of them. -/
theorem run?_further {extra : List String} {status : Status} (finer : m'.Finer p.markers)
    (overruled : ∀ line verdict, m'.Overrules p.markers line verdict →
      (Ending.decided verdict).status = status ∧ normalize line ∈ extra.map normalize)
    (h : run? ops p guest s fuel = some o) (hr : o.report = some r) :
    ∃ o' r', run? ops (p.withMarkers m') guest s fuel = some o' ∧ o'.report = some r' ∧
      r'.output <+: r.output ∧ (r' = r ∨ r'.status = status) ∧
      ((∀ line ∈ r.output, normalize line ∉ extra.map normalize) → r' = r) := by
  obtain same | ⟨o', r', line, verdict, ho', hr', ended, earlier, last, overrules⟩ :=
    run?_finer finer h hr
  · exact ⟨o, r, same, hr, List.prefix_rfl, .inl rfl, fun _ => rfl⟩
  · obtain ⟨hs, further⟩ := overruled line verdict overrules
    have heard : line ∈ r.output := earlier.subset (List.mem_of_getLast? last)
    refine ⟨o', r', ho', hr', earlier, .inr (ended.trans hs), fun none => ?_⟩
    exact absurd further (none line heard)

variable {c : Config} {m : Markers} {cancelAt : Option Nat} {clock : Nat} {echo : Bool}

/-- Markers that options add to those of a configuration. Every run that leaves a report leaves one
with them too. Further fail markers do not make a run pass that did not, and further pass markers
do not keep a run from passing; the lines heard are the first of those heard before. If none of the
lines heard before is a further marker, as lines and markers are compared, the report is the
same. -/
theorem further_markers_monotone (hm : Markers.ofConfig c.markers = .ok m)
    (ho : run? ops (.ofConfig c m cancelAt clock echo) guest s fuel = some o)
    (hr : o.report = some r) (extra : List String) :
    (∃ m' o' r', Markers.ofConfig (c.addMarkers [] extra).markers = .ok m' ∧
      run? ops (.ofConfig (c.addMarkers [] extra) m' cancelAt clock echo) guest s fuel = some o' ∧
      o'.report = some r' ∧ (r.status ≠ .passed → r'.status ≠ .passed) ∧
      r'.output <+: r.output ∧
      ((∀ line ∈ r.output, normalize line ∉ extra.map normalize) → r' = r)) ∧
    ∃ m' o' r', Markers.ofConfig (c.addMarkers extra []).markers = .ok m' ∧
      run? ops (.ofConfig (c.addMarkers extra []) m' cancelAt clock echo) guest s fuel = some o' ∧
      o'.report = some r' ∧ (r.status = .passed → r'.status = .passed) ∧
      r'.output <+: r.output ∧
      ((∀ line ∈ r.output, normalize line ∉ extra.map normalize) → r' = r) := by
  constructor
  · have failed (line : String) (verdict : Verdict)
        (h : (m.add [] extra).Overrules m line verdict) :
        (Ending.decided verdict).status = .failed ∧ normalize line ∈ extra.map normalize := by
      obtain ⟨rfl, further⟩ := h.fail
      exact ⟨rfl, further⟩
    obtain ⟨o', r', ho', hr', earlier, differs, same⟩ :=
      run?_further (p := .ofConfig c m cancelAt clock echo) (m.finer_add_fail extra) failed ho hr
    refine ⟨_, o', r', Markers.ofConfig_addMarkers hm [] extra, ho', hr', ?_, earlier, same⟩
    intro notPassed
    obtain rfl | failed := differs
    · exact notPassed
    · simp [failed]
  · have passed (line : String) (verdict : Verdict)
        (h : (m.add extra []).Overrules m line verdict) :
        (Ending.decided verdict).status = .passed ∧ normalize line ∈ extra.map normalize := by
      obtain ⟨rfl, further⟩ := h.pass
      exact ⟨rfl, further⟩
    obtain ⟨o', r', ho', hr', earlier, differs, same⟩ :=
      run?_further (p := .ofConfig c m cancelAt clock echo) (m.finer_add_pass extra) passed ho hr
    refine ⟨_, o', r', Markers.ofConfig_addMarkers hm extra [], ho', hr', ?_, earlier, same⟩
    intro passed
    obtain rfl | passed' := differs
    · exact passed
    · exact passed'

/-- A line between blanks that is a further marker, before the line that passed the run. -/
theorem further_markers_monotone_earlier :
    ∃ o r, Script.run? (.ofConfig .default .default none 0 false) "qemu"
        ⟨[.line "boot", .late 1500 (some "\tready\r"), .line "PASS"], none, none⟩ = some o ∧
      o.report = some r ∧ r.status = .passed ∧ r.output = ["boot", "\tready\r", "PASS"] ∧
      (∃ m' o' r', Markers.ofConfig (Config.default.addMarkers [] ["ready "]).markers = .ok m' ∧
        Script.run? (.ofConfig (Config.default.addMarkers [] ["ready "]) m' none 0 false) "qemu"
          ⟨[.line "boot", .late 1500 (some "\tready\r"), .line "PASS"], none, none⟩ = some o' ∧
        o'.report = some r' ∧ r'.output <+: ["boot", "\tready\r", "PASS"]) ∧
      ∃ m' o' r', Markers.ofConfig (Config.default.addMarkers ["ready "] []).markers = .ok m' ∧
        Script.run? (.ofConfig (Config.default.addMarkers ["ready "] []) m' none 0 false) "qemu"
          ⟨[.line "boot", .late 1500 (some "\tready\r"), .line "PASS"], none, none⟩ = some o' ∧
        o'.report = some r' ∧ r'.status = .passed := by
  have plan : Plan.ofConfig .default .default none 0 false =
      ⟨60000, 1000, .default, none, 0, false⟩ := rfl
  have hm : Markers.ofConfig Config.default.markers = .ok .default := rfl
  obtain ⟨o, r, ho, hr, passed, output⟩ : ∃ o r,
      Script.run? (.ofConfig .default .default none 0 false) "qemu"
        ⟨[.line "boot", .late 1500 (some "\tready\r"), .line "PASS"], none, none⟩ = some o ∧
      o.report = some r ∧ r.status = .passed ∧ r.output = ["boot", "\tready\r", "PASS"] := by
    rw [plan]
    exact ⟨_, _, rfl, rfl, rfl, rfl⟩
  obtain ⟨⟨m₁, o₁, r₁, hm₁, ho₁, hr₁, -, earlier, -⟩, m₂, o₂, r₂, hm₂, ho₂, hr₂, stays, -, -⟩ :=
    further_markers_monotone hm ho hr ["ready "]
  exact ⟨o, r, ho, hr, passed, output, ⟨m₁, o₁, r₁, hm₁, ho₁, hr₁, output ▸ earlier⟩,
    m₂, o₂, r₂, hm₂, ho₂, hr₂, stays passed⟩

end Run

end GuestWatch
