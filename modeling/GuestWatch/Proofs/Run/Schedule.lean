import GuestWatch.Proofs.Run.Watch

/-! # Watches over punctual guests

A guest keeps a schedule if each of its reads gives the next thing on the schedule as soon as its
time has come, and otherwise waits for as long as it may. What a watch over such a guest comes to
is told by the schedule alone, so that it makes no difference how the time is cut into reads.
-/
namespace GuestWatch

variable {σ : Type}

/-- What a guest says and when. Nothing is said after the first fault. -/
abbrev Schedule := List (Nat × Except Fault String)

/-- The time until which a schedule is silent, if that is looked at up to a limit only. -/
def Schedule.quietUntil (limit : Nat) : Schedule → Nat
  | [] => limit
  | (time, _) :: _ => min time limit

/-- What a read that begins at a time gives by a schedule, and how long it takes. The guest after
it is on what is left of the schedule, where `On` says what that means. -/
inductive Schedule.Serves (On : Nat → σ → Schedule → Prop) (now wait : Nat) :
    Schedule → Reading → Nat → σ → Prop
  | line {text : String} {rest : Schedule} {took : Nat} {s : σ} (soon : took ≤ wait)
    (on : On (now + took) s rest) :
    Serves On now wait ((now + took, .ok text) :: rest) (.ok (some text)) took s
  | fault {f : Fault} {rest : Schedule} {took : Nat} {s : σ} (soon : took ≤ wait) :
    Serves On now wait ((now + took, .error f) :: rest) (.error f) took s
  | silence {sch : Schedule} {s : σ} (later : ∀ entry ∈ sch.head?, now + wait < entry.1)
    (on : On (now + wait) s sch) : Serves On now wait sch (.ok none) wait s

namespace Schedule

variable {On : Nat → σ → Schedule → Prop} {sch : Schedule} {now wait took limit : Nat}
  {answer : Reading} {s : σ}

theorem quietUntil_of_later (later : ∀ entry ∈ sch.head?, limit < entry.1) :
    sch.quietUntil limit = limit := by
  cases sch with
  | nil => rfl
  | cons entry rest => exact Nat.min_eq_right (Nat.le_of_lt (later entry rfl))

/-- A read that has to end by the limit ends while the schedule is silent, or with its silence. -/
theorem Serves.quiet (h : sch.Serves On now wait answer took s) (within : now + wait ≤ limit) :
    now + took ≤ sch.quietUntil limit := by
  cases h with
  | line soon _ => exact Nat.le_min.mpr ⟨Nat.le_refl _, by omega⟩
  | fault soon => exact Nat.le_min.mpr ⟨Nat.le_refl _, by omega⟩
  | silence later _ =>
    cases sch with
    | nil => exact within
    | cons entry rest => exact Nat.le_min.mpr ⟨Nat.le_of_lt (later entry rfl), within⟩

end Schedule

/-- A guest that says what is on its schedule. -/
def Operations.Keeps (ops : Operations σ) (On : Nat → σ → Schedule → Prop) : Prop :=
  ∀ {now wait took : Nat} {s s' : σ} {sch : Schedule} {answer : Reading},
    On now s sch → ops.read s wait = (answer, took, s') →
      Schedule.Serves On now wait sch answer took s'

namespace Run

variable {ops : Operations σ} {p : Plan} {w w' : Watch σ} {On : Nat → σ → Schedule → Prop}
  {sch rest : Schedule} {now time : Nat} {s : σ} {heard : List String}

/-- What a watch comes to by a schedule: its time, what it has heard, latest first, and how it
ends. A cancellation comes before what is said at the same time, and what is said at the time of
the deadline is still heard. The line timeout is not looked at. -/
def Plan.follow (p : Plan) (now : Nat) (heard : List String) (sch : Schedule) :
    Nat × List String × Ending :=
  if p.timeoutMs ≤ now then (now, heard, .fault (.timedOut p.timeoutMs))
  else if p.cancelledBy (sch.quietUntil p.timeoutMs) then
    (p.cancelAt.getD now, heard, .interrupted)
  else
    match sch with
    | [] => (p.timeoutMs, heard, .fault (.timedOut p.timeoutMs))
    | (time, answer) :: rest =>
      if p.timeoutMs < time then (p.timeoutMs, heard, .fault (.timedOut p.timeoutMs))
      else
        match answer with
        | .error f => (time, heard, .fault f)
        | .ok line =>
          match p.markers.classify line with
          | some v => (time, line :: heard, .decided v)
          | none => p.follow time (line :: heard) rest

theorem Plan.follow_expired (late : p.timeoutMs ≤ now) :
    p.follow now heard sch = (now, heard, .fault (.timedOut p.timeoutMs)) := by
  unfold follow
  rw [if_pos late]

theorem Plan.follow_cancelled (early : now < p.timeoutMs)
    (come : p.cancelledBy (sch.quietUntil p.timeoutMs) = true) :
    p.follow now heard sch = (p.cancelAt.getD now, heard, .interrupted) := by
  unfold follow
  rw [if_neg (Nat.not_le.mpr early), if_pos come]

theorem Plan.follow_fault {f : Fault} (early : now < p.timeoutMs) (within : time ≤ p.timeoutMs)
    (uncancelled : p.cancelledBy time = false) :
    p.follow now heard ((time, .error f) :: rest) = (time, heard, .fault f) := by
  simp [follow, Nat.not_le.mpr early, Nat.not_lt.mpr within, Schedule.quietUntil,
    Nat.min_eq_left within, uncancelled]

theorem Plan.follow_decided {line : String} {v : Verdict} (early : now < p.timeoutMs)
    (within : time ≤ p.timeoutMs) (uncancelled : p.cancelledBy time = false)
    (verdict : p.markers.classify line = some v) :
    p.follow now heard ((time, .ok line) :: rest) = (time, line :: heard, .decided v) := by
  simp [follow, Nat.not_le.mpr early, Nat.not_lt.mpr within, Schedule.quietUntil,
    Nat.min_eq_left within, uncancelled, verdict]

theorem Plan.follow_heard {line : String} (early : now < p.timeoutMs)
    (within : time ≤ p.timeoutMs) (uncancelled : p.cancelledBy time = false)
    (verdict : p.markers.classify line = none) :
    p.follow now heard ((time, .ok line) :: rest) = p.follow time (line :: heard) rest := by
  rw [follow]
  simp [Nat.not_le.mpr early, Nat.not_lt.mpr within, Schedule.quietUntil,
    Nat.min_eq_left within, uncancelled, verdict]

/-- Nothing changes by waiting while the schedule is silent and no cancellation comes. -/
theorem Plan.follow_wait {after : Nat} (early : now < p.timeoutMs) (within : after ≤ p.timeoutMs)
    (later : ∀ entry ∈ sch.head?, after < entry.1) (uncancelled : p.cancelledBy after = false) :
    p.follow after heard sch = p.follow now heard sch := by
  by_cases done : p.timeoutMs ≤ after
  -- At the deadline one side has expired and the other still has to see that nothing comes.
  · obtain rfl : after = p.timeoutMs := Nat.le_antisymm within done
    have quiet := Schedule.quietUntil_of_later later
    rw [follow_expired (Nat.le_refl _)]
    unfold follow
    rw [if_neg (Nat.not_le.mpr early), quiet, uncancelled]
    cases sch with
    | nil => simp
    | cons entry rest => simp [later entry rfl]
  · by_cases come : p.cancelledBy (sch.quietUntil p.timeoutMs) = true
    · obtain ⟨c, hc, -⟩ := cancelledBy_iff.mp come
      rw [follow_cancelled early come, follow_cancelled (Nat.lt_of_not_le done) come, hc]
      rfl
    · unfold follow
      rw [if_neg done, if_neg come, if_neg (Nat.not_le.mpr early), if_neg come]

/-- A watch that will come to a given result by the schedule that its guest is on. -/
def Watch.Follows (p : Plan) (On : Nat → σ → Schedule → Prop)
    (result : Nat × List String × Ending) (w : Watch σ) : Prop :=
  (∀ c, p.cancelAt = some c → w.now ≤ c) ∧
    ∃ sch, On w.now w.guest sch ∧ p.follow w.now w.output sch = result

variable {result : Nat × List String × Ending}

theorem Watch.Follows.turn (keeps : ops.Keeps On) (h : w.Follows p On result)
    (ht : Turn ops p w w' none) : w'.Follows p On result := by
  obtain ⟨-, sch, on, rfl⟩ := h
  have uncancelled {time : Nat} (hu : p.cancelledBy time = false) :
      ∀ c, p.cancelAt = some c → time ≤ c := fun c hc => by
    simp only [Plan.cancelledBy, hc, Option.any_some, decide_eq_false_iff_not] at hu
    omega
  cases ht with
  | silent took guest read =>
    refine ⟨uncancelled read.uncancelled, ?_⟩
    cases keeps on read.read with
    | silence later on' =>
      exact ⟨sch, on', Plan.follow_wait read.early (Plan.waitAt_le read.early) later
        read.uncancelled⟩
  | heard line took guest read verdict =>
    refine ⟨uncancelled read.uncancelled, ?_⟩
    have bound := Plan.waitAt_le read.early
    cases keeps on read.read with
    | line soon on' =>
      exact ⟨_, on', (Plan.follow_heard read.early (by omega) read.uncancelled verdict).symm⟩

theorem Watch.Follows.done (keeps : ops.Keeps On) {e : Ending} (h : w.Follows p On result)
    (ht : Turn ops p w w' (some e)) : (w'.now, w'.output, e) = result := by
  obtain ⟨before, sch, on, rfl⟩ := h
  cases ht with
  | expired late => exact (Plan.follow_expired late).symm
  | cancelled early come =>
    -- No read is asked for here, but one would show that the schedule has nothing before now.
    rcases hr : ops.read w.guest 0 with ⟨answer, took, guest⟩
    have quiet : w.now + took ≤ sch.quietUntil p.timeoutMs :=
      (keeps on hr).quiet (Nat.le_of_lt early)
    obtain ⟨c, hc, hle⟩ := Plan.cancelledBy_iff.mp come
    rw [Plan.follow_cancelled early (Plan.cancelledBy_mono (by omega) come), hc, Option.getD_some,
      Nat.le_antisymm (before c hc) hle]
  | abandoned answer took guest early before read come =>
    have quiet := (keeps on read).quiet (Plan.waitAt_le early)
    exact (Plan.follow_cancelled early (Plan.cancelledBy_mono quiet come)).symm
  | failed f took guest read =>
    have bound := Plan.waitAt_le read.early
    cases keeps on read.read with
    | fault soon => exact (Plan.follow_fault read.early (by omega) read.uncancelled).symm
  | decided line v took guest read verdict =>
    have bound := Plan.waitAt_le read.early
    cases keeps on read.read with
    | line soon _ =>
      exact (Plan.follow_decided read.early (by omega) read.uncancelled verdict).symm

/-- A watch over a punctual guest comes to what its schedule says. -/
theorem watch_follows (keeps : ops.Keeps On) (on : On 0 s sch) {fuel : Nat} {e : Ending}
    (h : watch ops p (.fresh s) fuel = some (w, e)) :
    (w.now, w.output, e) = p.follow 0 [] sch := by
  have fresh : (Watch.fresh s).Follows p On (p.follow 0 [] sch) :=
    ⟨fun c _ => Nat.zero_le c, sch, on, rfl⟩
  exact watch_induction (Q := fun w e => (w.now, w.output, e) = p.follow 0 [] sch)
    (Watch.Follows.turn keeps) (Watch.Follows.done keeps) fresh h

theorem Plan.follow_lineTimeout (p : Plan) (ms now : Nat) (heard : List String) (sch : Schedule) :
    { p with lineTimeoutMs := ms }.follow now heard sch = p.follow now heard sch := by
  induction sch generalizing now heard with
  | nil => rfl
  | cons entry sch ih =>
    unfold follow
    simp only [ih]
    rfl

/-- The report that a schedule leads to. -/
def Plan.scheduled (p : Plan) (guest : String) (sch : Schedule) : Report :=
  let (now, output, e) := p.follow 0 [] sch
  finished guest (⟨now, (), [], output, ""⟩ : Watch Unit) e

theorem Plan.scheduled_lineTimeout (p : Plan) (ms : Nat) (guest : String) (sch : Schedule) :
    { p with lineTimeoutMs := ms }.scheduled guest sch = p.scheduled guest sch := by
  rw [scheduled, follow_lineTimeout]
  rfl

theorem run?_scheduled {guest : String} {s' : σ} {fuel : Nat} {o : Outcome σ}
    (keeps : ops.Keeps On) (hs : ops.start s = (.ok (), s')) (hp : p.deadlineFits = true)
    (on : On 0 s' sch) (h : run? ops p guest s fuel = some o) :
    o.report = some (p.scheduled guest sch) := by
  rw [run?_of_started ops hs hp] at h
  obtain ⟨⟨w, e⟩, hw, rfl⟩ := Option.map_eq_some_iff.mp h
  rw [Plan.scheduled, ← watch_follows keeps on hw]
  rfl

end Run

end GuestWatch
