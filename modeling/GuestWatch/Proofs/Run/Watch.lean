import GuestWatch.Run

/-! # Turns, watches and runs

A turn has seven outcomes, and every property of a watch is read off them: what each turn keeps
holds when the watch ends. A run adds a start before the watch and a stop after it.
-/
namespace GuestWatch.Run

variable {σ : Type} {ops : Operations σ} {p : Plan} {w w' : Watch σ}

theorem Plan.cancelledBy_iff {time : Nat} :
    p.cancelledBy time = true ↔ ∃ c, p.cancelAt = some c ∧ c ≤ time := by
  simp [cancelledBy, Option.any_eq_true]

theorem Plan.cancelledBy_mono {a b : Nat} (hab : a ≤ b) (h : p.cancelledBy a = true) :
    p.cancelledBy b = true := by
  rw [cancelledBy_iff] at *
  obtain ⟨c, hc, ha⟩ := h
  exact ⟨c, hc, Nat.le_trans ha hab⟩

theorem Plan.cancelledBy_of_none (h : p.cancelAt = none) (time : Nat) :
    p.cancelledBy time = false := by simp [cancelledBy, h]

theorem Plan.waitAt_le {now : Nat} (early : now < p.timeoutMs) :
    now + p.waitAt now ≤ p.timeoutMs := by
  simp only [waitAt]
  omega

/-- The watch after an answered read. -/
def Watch.advance (w : Watch σ) (wait took : Nat) (guest : σ) : Watch σ :=
  { w with now := w.now + took, guest, calls := .read wait false :: w.calls }

/-- The watch after a line has been shown and written down. -/
def Watch.hear (p : Plan) (w : Watch σ) (line : String) : Watch σ :=
  { w with shown := w.shown ++ p.shows line, output := line :: w.output }

/-- The watch whose read was given up at the cancellation. -/
def Watch.abandon (p : Plan) (w : Watch σ) : Watch σ :=
  { w with now := p.cancelAt.getD w.now, calls := .read (p.waitAt w.now) true :: w.calls }

/-- A read that is asked for before the deadline and answered before any cancellation. -/
structure Watch.Answered (ops : Operations σ) (p : Plan) (w : Watch σ) (answer : Reading)
    (took : Nat) (guest : σ) : Prop where
  early : w.now < p.timeoutMs
  read : ops.read w.guest (p.waitAt w.now) = (answer, took, guest)
  uncancelled : p.cancelledBy (w.now + took) = false

theorem Watch.Answered.before {answer : Reading} {took : Nat} {guest : σ}
    (h : w.Answered ops p answer took guest) : p.cancelledBy w.now = false :=
  Bool.eq_false_iff.mpr fun hw => by
    have := Plan.cancelledBy_mono (Nat.le_add_right w.now took) hw
    simp [h.uncancelled] at this

/-- All that a turn can do, with the conditions under which it does it. -/
inductive Turn (ops : Operations σ) (p : Plan) (w : Watch σ) : Watch σ → Option Ending → Prop
  | expired (late : p.timeoutMs ≤ w.now) :
    Turn ops p w w (some (.fault (.timedOut p.timeoutMs)))
  | cancelled (early : w.now < p.timeoutMs) (come : p.cancelledBy w.now = true) :
    Turn ops p w w (some .interrupted)
  | abandoned (answer : Reading) (took : Nat) (guest : σ) (early : w.now < p.timeoutMs)
    (before : p.cancelledBy w.now = false)
    (read : ops.read w.guest (p.waitAt w.now) = (answer, took, guest))
    (come : p.cancelledBy (w.now + took) = true) :
    Turn ops p w (w.abandon p) (some .interrupted)
  | failed (f : Fault) (took : Nat) (guest : σ) (read : w.Answered ops p (.error f) took guest) :
    Turn ops p w (w.advance (p.waitAt w.now) took guest) (some (.fault f))
  | silent (took : Nat) (guest : σ) (read : w.Answered ops p (.ok none) took guest) :
    Turn ops p w (w.advance (p.waitAt w.now) took guest) none
  | decided (line : String) (v : Verdict) (took : Nat) (guest : σ)
    (read : w.Answered ops p (.ok (some line)) took guest)
    (verdict : p.markers.classify line = some v) :
    Turn ops p w ((w.advance (p.waitAt w.now) took guest).hear p line) (some (.decided v))
  | heard (line : String) (took : Nat) (guest : σ)
    (read : w.Answered ops p (.ok (some line)) took guest)
    (verdict : p.markers.classify line = none) :
    Turn ops p w ((w.advance (p.waitAt w.now) took guest).hear p line) none

theorem turn_spec (ops : Operations σ) (p : Plan) (w : Watch σ) :
    Turn ops p w (turn ops p w).1 (turn ops p w).2 := by
  unfold turn
  by_cases early : w.now < p.timeoutMs
  · rw [if_neg (Nat.not_le.mpr early)]
    by_cases before : p.cancelledBy w.now = true
    · rw [if_pos before]
      exact .cancelled early before
    · rw [if_neg before]
      rcases read : ops.read w.guest (p.waitAt w.now) with ⟨answer, took, guest⟩
      by_cases come : p.cancelledBy (w.now + took) = true
      · simp only [read, come, if_true]
        exact .abandoned answer took guest early (by simpa using before) read come
      · simp only [read, come, Bool.false_eq_true, if_false]
        have answered : w.Answered ops p answer took guest := ⟨early, read, by simpa using come⟩
        match answer, answered with
        | .error f, answered => exact .failed f took guest answered
        | .ok none, answered => exact .silent took guest answered
        | .ok (some line), answered =>
          cases verdict : p.markers.classify line with
          | none =>
            simp only [absorb, verdict, Option.map_none]
            exact .heard line took guest answered verdict
          | some v =>
            simp only [absorb, verdict, Option.map_some]
            exact .decided line v took guest answered verdict
  · rw [if_pos (Nat.le_of_not_lt early)]
    exact .expired (Nat.le_of_not_lt early)

/-- A watch can only turn in one way. -/
theorem Turn.eq {e : Option Ending} (h : Turn ops p w w' e) : turn ops p w = (w', e) := by
  cases h with
  | expired late => simp [turn, late]
  | cancelled early come => simp [turn, Nat.not_le.mpr early, come]
  | abandoned answer took guest early uncancelled read come =>
    simp [turn, Nat.not_le.mpr early, uncancelled, read, come, Watch.abandon]
  | failed f took guest h =>
    simp [turn, Nat.not_le.mpr h.early, h.before, h.read, h.uncancelled, absorb,
      Watch.advance]
  | silent took guest h =>
    simp [turn, Nat.not_le.mpr h.early, h.before, h.read, h.uncancelled, absorb,
      Watch.advance]
  | decided line v took guest h verdict =>
    simp [turn, Nat.not_le.mpr h.early, h.before, h.read, h.uncancelled, absorb,
      Watch.advance, Watch.hear, verdict]
  | heard line took guest h verdict =>
    simp [turn, Nat.not_le.mpr h.early, h.before, h.read, h.uncancelled, absorb,
      Watch.advance, Watch.hear, verdict]

/-- What holds at the beginning of a watch and is kept by every turn holds in its last turn. -/
theorem watch_induction {I : Watch σ → Prop} {Q : Watch σ → Ending → Prop}
    (moves : ∀ {w w'}, I w → Turn ops p w w' none → I w')
    (ends : ∀ {w w' e}, I w → Turn ops p w w' (some e) → Q w' e)
    {fuel : Nat} {e : Ending} (hw : I w) (h : watch ops p w fuel = some (w', e)) : Q w' e := by
  induction fuel generalizing w with
  | zero => simp [watch] at h
  | succ fuel ih =>
    have ht := turn_spec ops p w
    rcases hv : turn ops p w with ⟨v, ending⟩
    rw [hv] at ht
    cases ending with
    | none =>
      simp only [watch, hv] at h
      exact ih (moves hw ht) h
    | some ending =>
      simp only [watch, hv, Option.some.injEq, Prod.mk.injEq] at h
      obtain ⟨rfl, rfl⟩ := h
      exact ends hw ht

theorem Turn.now_le {e : Option Ending} (h : Turn ops p w w' e) : w.now ≤ w'.now := by
  cases h with
  | expired | cancelled => exact Nat.le_refl _
  | failed _ took | silent took | decided _ _ took | heard _ took => exact Nat.le_add_right _ took
  | abandoned answer took guest early before read come =>
    obtain ⟨c, hc, -⟩ := Plan.cancelledBy_iff.mp come
    have later : w.now < c := by simpa [Plan.cancelledBy, hc] using before
    simpa [Watch.abandon, hc] using Nat.le_of_lt later

/-- A turn forgets no line. -/
theorem Turn.output {e : Option Ending} (h : Turn ops p w w' e) : w.output <:+ w'.output := by
  cases h with
  | expired | cancelled | abandoned | failed | silent => exact List.suffix_rfl
  | decided line | heard line => exact List.suffix_cons line w.output

theorem watch_output {fuel : Nat} {e : Ending} (h : watch ops p w fuel = some (w', e)) :
    w.output <:+ w'.output :=
  watch_induction (I := fun v => w.output <:+ v.output) (Q := fun v _ => w.output <:+ v.output)
    (fun hv ht => hv.trans ht.output) (fun hv ht => hv.trans ht.output) List.suffix_rfl h

/-- A watch takes no notice of how the guest starts and stops. -/
theorem watch_congr (ops other : Operations σ) (h : other.read = ops.read) (fuel : Nat) :
    watch other p w fuel = watch ops p w fuel := by
  induction fuel generalizing w with
  | zero => rfl
  | succ fuel ih =>
    have ht : turn other p w = turn ops p w := by simp only [turn, h]
    simp only [watch, ht, ih]

/-- The watch over a guest that has just been started. -/
def Watch.fresh (s : σ) : Watch σ := ⟨0, s, [.start], [], ""⟩

/-- What a run leaves when its watch has ended. -/
def Watch.conclude (ops : Operations σ) (guest : String) (w : Watch σ) (e : Ending) : Outcome σ :=
  ⟨some (finished guest w e), (.stop :: w.calls).reverse, (ops.stop w.guest).2, w.shown⟩

variable {guest : String} {s s' : σ} {fuel : Nat} {o : Outcome σ}

theorem run?_of_start_error (ops : Operations σ) {f : Fault} (hs : ops.start s = (.error f, s')) :
    run? ops p guest s fuel = some ⟨some (unstarted guest f), [.start], s', ""⟩ := by
  simp [run?, hs]

theorem run?_of_unfit (ops : Operations σ) (hs : ops.start s = (.ok (), s'))
    (hp : p.deadlineFits = false) : run? ops p guest s fuel = some ⟨none, [.start], s', ""⟩ := by
  simp [run?, hs, hp]

theorem run?_of_started (ops : Operations σ) (hs : ops.start s = (.ok (), s'))
    (hp : p.deadlineFits = true) :
    run? ops p guest s fuel =
      (watch ops p (.fresh s') fuel).map fun (w, e) => w.conclude ops guest e := by
  simp [run?, hs, hp, Watch.fresh, Watch.conclude]

/-- The three ways in which a run can come to its end. -/
theorem run?_cases (h : run? ops p guest s fuel = some o) :
    (∃ f s', ops.start s = (.error f, s') ∧ o = ⟨some (unstarted guest f), [.start], s', ""⟩) ∨
    (∃ s', ops.start s = (.ok (), s') ∧ p.deadlineFits = false ∧ o = ⟨none, [.start], s', ""⟩) ∨
    ∃ s' w e, ops.start s = (.ok (), s') ∧ p.deadlineFits = true ∧
      watch ops p (.fresh s') fuel = some (w, e) ∧ o = w.conclude ops guest e := by
  rcases hs : ops.start s with ⟨answer, s'⟩
  cases answer with
  | error f =>
    rw [run?_of_start_error ops hs] at h
    exact .inl ⟨f, s', rfl, (Option.some.inj h).symm⟩
  | ok _ =>
    cases hp : p.deadlineFits with
    | false =>
      rw [run?_of_unfit ops hs hp] at h
      exact .inr (.inl ⟨s', rfl, rfl, (Option.some.inj h).symm⟩)
    | true =>
      rw [run?_of_started ops hs hp] at h
      obtain ⟨⟨w, e⟩, hw, rfl⟩ := Option.map_eq_some_iff.mp h
      exact .inr (.inr ⟨s', w, e, rfl, rfl, hw, rfl⟩)

end GuestWatch.Run
