import GuestWatch.Proofs.Run.Course
import GuestWatch.Proofs.Run.Playing

/-! # Cancellations

A cancellation cuts a run short and does nothing else. A run goes as it would without one as long
as its reads are answered before the cancellation; the first read that is not is given up, or not
asked for if the cancellation was there from the start. So a cancellation comes before a line, a
fault or the deadline of the same time, and one that comes later than the end changes nothing.
-/
namespace GuestWatch.Run

variable {σ : Type} {ops : Operations σ} {p : Plan} {w w' v : Watch (σ × List Exchange)}
  {e : Ending} {ending : Option Ending} {fuel cancel : Nat}

/-- A plan with a cancellation at a time. -/
def Plan.cancelledAt (p : Plan) (cancel : Nat) : Plan := { p with cancelAt := some cancel }

theorem Plan.cancelledAt_cancelledBy {time : Nat} :
    (p.cancelledAt cancel).cancelledBy time = decide (cancel ≤ time) := rfl

/-! ## Before the cancellation -/

/-- A read that is answered before the cancellation is answered all the same. -/
theorem Watch.Answered.uncut {answer : Reading} {took : Nat} {g : σ × List Exchange}
    (h : w.Answered ops.recorded p answer took g) (before : w.now + took < cancel) :
    w.Answered ops.recorded (p.cancelledAt cancel) answer took g :=
  ⟨h.early, h.read, by simpa [Plan.cancelledAt_cancelledBy] using before⟩

theorem Turn.uncut (never : p.cancelAt = none) (ht : Turn ops.recorded p w v ending)
    (before : v.now < cancel) : Turn ops.recorded (p.cancelledAt cancel) w v ending := by
  have uncancelled := Plan.cancelledBy_of_none never
  cases ht with
  | expired late => exact .expired late
  | cancelled early come => simp [uncancelled] at come
  | abandoned answer took g early _ read come => simp [uncancelled] at come
  | failed f took g h => exact .failed f took g (h.uncut before)
  | silent took g h => exact .silent took g (h.uncut before)
  | decided line v took g h verdict => exact .decided line v took g (h.uncut before) verdict
  | heard line took g h verdict => exact .heard line took g (h.uncut before) verdict

/-! ## At the cancellation -/

/-- A watch between turns that has heard nothing at the cancellation or after it. -/
structure Watch.Ahead (ops : Operations σ) (p : Plan) (cancel : Nat)
    (w : Watch (σ × List Exchange)) : Prop where
  level : w.Level ops p
  before : ∀ x ∈ w.guest.2, x.ended < cancel

theorem Watch.Ahead.now_le (h : w.Ahead ops p cancel) : w.now ≤ cancel := by
  rw [h.level.time]
  rcases hr : w.guest.2 with _ | ⟨x, earlier⟩
  · exact Nat.zero_le _
  · exact Nat.le_of_lt (h.before x (hr ▸ List.mem_cons_self))

/-- A watch can reach the deadline before the cancellation, but not at it. -/
theorem Watch.Ahead.early (h : w.Ahead ops p cancel) (positive : 0 < p.timeoutMs)
    (late : cancel ≤ w.now) : w.now < p.timeoutMs := by
  rw [h.level.time] at late ⊢
  rcases hr : w.guest.2 with _ | ⟨x, earlier⟩
  · exact positive
  · rw [hr] at late
    have := h.before x (hr ▸ List.mem_cons_self)
    exact absurd late (Nat.not_le.mpr this)

/-- A read that is not answered before the cancellation ends the watch at the cancellation. -/
theorem Watch.Answered.cut {answer : Reading} {took : Nat} {g : σ × List Exchange}
    (h : w.Answered ops.recorded p answer took g) (ahead : w.Ahead ops p cancel)
    (late : cancel ≤ w.now + took) :
    ∃ u, Turn ops.recorded (p.cancelledAt cancel) w u (some .interrupted) ∧ u.now = cancel ∧
      u.guest = w.guest := by
  by_cases come : cancel ≤ w.now
  · exact ⟨w, .cancelled h.early (by simpa [Plan.cancelledAt_cancelledBy] using come),
      Nat.le_antisymm ahead.now_le come, rfl⟩
  · refine ⟨w.abandon (p.cancelledAt cancel), .abandoned answer took g h.early ?_ h.read ?_,
      rfl, rfl⟩
    · simpa [Plan.cancelledAt_cancelledBy] using come
    · simpa [Plan.cancelledAt_cancelledBy] using late

/-- Without a cancellation a turn is at the deadline or has its read answered. -/
theorem Turn.answered_of_never (never : p.cancelAt = none) (ht : Turn ops.recorded p w v ending) :
    (p.timeoutMs ≤ w.now ∧ v = w ∧ ending ≠ none) ∨
      ∃ answer took g, w.Answered ops.recorded p answer took g ∧ v.guest = g ∧
        v.now = w.now + took := by
  have uncancelled := Plan.cancelledBy_of_none never
  cases ht with
  | expired late => exact .inl ⟨late, rfl, by simp⟩
  | cancelled early come => simp [uncancelled] at come
  | abandoned answer took g early _ read come => simp [uncancelled] at come
  | failed f took g h => exact .inr ⟨_, took, g, h, rfl, rfl⟩
  | silent took g h => exact .inr ⟨_, took, g, h, rfl, rfl⟩
  | decided line v took g h _ => exact .inr ⟨_, took, g, h, rfl, rfl⟩
  | heard line took g h _ => exact .inr ⟨_, took, g, h, rfl, rfl⟩

/-- A turn that comes to the cancellation has added one exchange, and is cut. -/
theorem Turn.cut (never : p.cancelAt = none) (positive : 0 < p.timeoutMs)
    (ht : Turn ops.recorded p w v ending) (ahead : w.Ahead ops p cancel)
    (late : cancel ≤ v.now) :
    (∃ x, v.guest.2 = x :: w.guest.2 ∧ cancel ≤ x.ended) ∧
      ∃ u, Turn ops.recorded (p.cancelledAt cancel) w u (some .interrupted) ∧ u.now = cancel ∧
        u.guest = w.guest := by
  obtain ⟨past, rfl, -⟩ | ⟨answer, took, g, h, rfl, time⟩ := ht.answered_of_never never
  · exact absurd past (Nat.not_le.mpr (ahead.early positive late))
  · rw [time] at late
    exact ⟨⟨_, (ahead.level.answered h).1, late⟩, h.cut ahead late⟩

theorem Watch.Ahead.turn (never : p.cancelAt = none) (ahead : w.Ahead ops p cancel)
    (ht : Turn ops.recorded p w v none) (before : v.now < cancel) : v.Ahead ops p cancel := by
  refine ⟨ahead.level.turn ht, ?_⟩
  obtain ⟨-, -, ended⟩ | ⟨answer, took, g, h, rfl, time⟩ := ht.answered_of_never never
  · exact absurd rfl ended
  · rw [time] at before
    rw [(ahead.level.answered h).1]
    exact List.forall_mem_cons.mpr ⟨before, ahead.before⟩

/-! ## After the cancellation -/

/-- A watch that has come from another: time has not gone back, and what its guest has written down
since is not earlier. -/
structure Watch.Since (w w' : Watch (σ × List Exchange)) : Prop where
  time : w.now ≤ w'.now
  record : ∃ more, w'.guest.2 = more ++ w.guest.2 ∧ ∀ x ∈ more, w.now ≤ x.ended

theorem Watch.Since.refl (w : Watch (σ × List Exchange)) : w.Since w :=
  ⟨Nat.le_refl _, [], rfl, by simp⟩

theorem Watch.Since.turn (never : p.cancelAt = none) (level : w'.Level ops p) (h : w.Since w')
    (ht : Turn ops.recorded p w' v ending) : w.Since v := by
  obtain ⟨-, rfl, -⟩ | ⟨answer, took, g, answered, rfl, time⟩ := ht.answered_of_never never
  · exact h
  · obtain ⟨le, more, hm, after⟩ := h
    have later : w.now ≤ w'.now + took := Nat.le_trans le (Nat.le_add_right _ _)
    refine ⟨time ▸ later, w'.exchange p took answer :: more, ?_, ?_⟩
    · rw [(level.answered answered).1, hm]
      rfl
    · exact List.forall_mem_cons.mpr ⟨later, after⟩

theorem watch_since (never : p.cancelAt = none) (level : w.Level ops p)
    (h : watch ops.recorded p w fuel = some (w', e)) : w.Since w' :=
  watch_induction (I := fun v => v.Level ops p ∧ w.Since v) (Q := fun v _ => w.Since v)
    (fun hv ht => ⟨hv.1.turn ht, hv.2.turn never hv.1 ht⟩)
    (fun hv ht => hv.2.turn never hv.1 ht) ⟨level, .refl w⟩ h

/-! ## Watches -/

/-- Exchanges that were over before a time. -/
def before (cancel : Nat) (xs : List Exchange) : List Exchange := xs.filter (·.ended < cancel)

theorem before_append {more xs : List Exchange} (late : ∀ x ∈ more, cancel ≤ x.ended)
    (soon : ∀ x ∈ xs, x.ended < cancel) : before cancel (more ++ xs) = xs := by
  have none : more.filter (·.ended < cancel) = [] :=
    List.filter_eq_nil_iff.mpr fun x hx => by simpa using late x hx
  have all : xs.filter (·.ended < cancel) = xs :=
    List.filter_eq_self.mpr fun x hx => by simpa using soon x hx
  rw [before, List.filter_append, none, all, List.nil_append]

/-- A watch with a cancellation that comes after its end is the same watch; any other is over at
the cancellation and has heard what was over before. -/
theorem watch_cut (never : p.cancelAt = none) (positive : 0 < p.timeoutMs)
    (ahead : w.Ahead ops p cancel) (h : watch ops.recorded p w fuel = some (w', e)) :
    (w'.now < cancel → watch ops.recorded (p.cancelledAt cancel) w fuel = some (w', e)) ∧
      (cancel ≤ w'.now →
        ∃ u, watch ops.recorded (p.cancelledAt cancel) w fuel = some (u, .interrupted) ∧
          u.now = cancel ∧ u.guest.2 = before cancel w'.guest.2) := by
  induction fuel generalizing w with
  | zero => simp [watch] at h
  | succ fuel ih =>
    have ht := turn_spec ops.recorded p w
    rcases hv : turn ops.recorded p w with ⟨v, ending⟩
    rw [hv] at ht
    -- Either way the watch ends at or after the turn that it makes here.
    have since : v.Since w' := by
      cases ending with
      | none =>
        simp only [watch, hv] at h
        exact watch_since never (ahead.level.turn ht) h
      | some ending =>
        simp only [watch, hv, Option.some.injEq, Prod.mk.injEq] at h
        exact h.1 ▸ .refl v
    by_cases soon : v.now < cancel
    · have same := (ht.uncut never soon).eq
      cases ending with
      | none =>
        simp only [watch, hv] at h
        simp only [watch, same]
        exact ih (ahead.turn never ht soon) h
      | some ending =>
        simp only [watch, hv, Option.some.injEq, Prod.mk.injEq] at h
        obtain ⟨rfl, rfl⟩ := h
        exact ⟨fun _ => by simp only [watch, same],
          fun late => absurd soon (Nat.not_lt.mpr late)⟩
    · have late : cancel ≤ v.now := Nat.le_of_not_lt soon
      obtain ⟨⟨x, record, past⟩, u, cut, now, guest⟩ := ht.cut never positive ahead late
      obtain ⟨time, more, hm, after⟩ := since
      refine ⟨fun early => absurd (Nat.le_trans late time) (Nat.not_le.mpr early), fun _ => ?_⟩
      refine ⟨u, by simp only [watch, cut.eq], now, ?_⟩
      have laterOver : ∀ y ∈ more ++ [x], cancel ≤ y.ended := by
        simp only [List.mem_append, List.mem_singleton]
        rintro y (hy | rfl)
        · exact Nat.le_trans late (after y hy)
        · exact past
      rw [hm, record, List.append_cons, before_append laterOver ahead.before, guest]

/-! ## Runs -/

variable {guest : String} {s s' : σ} {o : Outcome σ} {xs : List Exchange} {ended : Nat}

theorem Watch.Complete.stops_once (h : w.Complete ops p e) :
    (.stop :: w.calls).reverse.count .stop = 1 := by
  have reads : (w.guest.2.map Exchange.call).count Call.stop = 0 := by
    simp [List.count_eq_zero, Exchange.call]
  rw [List.count_reverse, List.count_cons_self]
  obtain ⟨calls, -⟩ | ⟨calls, -⟩ := h.calls <;> simp [calls, reads]

/-- What a run with a cancellation leaves, beside what the same run without one leaves, the reads
that were answered then, and the time at which it was over. -/
structure Outcome.Truncated (ops : Operations σ) (p : Plan) (guest : String) (s : σ) (fuel : Nat)
    (o : Outcome σ) (xs : List Exchange) (ended cancel : Nat) (o' : Outcome σ) : Prop where
  after : ended < cancel → o'.report = o.report ∧ o'.calls = o.calls
  course : cancel ≤ ended →
    Course ops (p.cancelledAt cancel) guest s fuel o' (before cancel xs) cancel .interrupted
  report : cancel ≤ ended → ∃ r, o'.report = some r ∧ r.status = .backendError ∧
    r.message = some "run interrupted" ∧
    r.stages = [.notStarted, .running, .finished .backendError] ∧
    r.elapsedMs = .ofNat cancel ∧ r.output = (before cancel xs).filterMap Exchange.line?
  stops : cancel ≤ ended → o'.calls.count .stop = 1
  unread : cancel = 0 → o'.calls = [.start, .stop]

theorem run?_truncated_of_watch (never : p.cancelAt = none) (positive : 0 < p.timeoutMs)
    (hs : ops.start s = (.ok (), s')) (hp : p.deadlineFits = true)
    (h : watch ops.recorded p (.fresh (s', [])) fuel = some (w, e)) (cancel : Nat) :
    ∃ o', run? ops (p.cancelledAt cancel) guest s fuel = some o' ∧
      (w.bare.conclude ops guest e).Truncated ops p guest s fuel w.guest.2.reverse w.now cancel
        o' := by
  have ahead : (Watch.fresh (s', [])).Ahead ops p cancel := ⟨.fresh s', by simp [Watch.fresh]⟩
  have hp' : (p.cancelledAt cancel).deadlineFits = true := hp
  obtain ⟨same, cut⟩ := watch_cut never positive ahead h
  by_cases soon : w.now < cancel
  · have notYet : ¬ cancel ≤ w.now := Nat.not_le.mpr soon
    refine ⟨w.bare.conclude ops guest e, run?_of_recorded hs hp' (same soon), ?_⟩
    exact ⟨fun _ => ⟨rfl, rfl⟩, (absurd · notYet), (absurd · notYet), (absurd · notYet),
      fun h0 => absurd (h0 ▸ Nat.zero_le _) notYet⟩
  · obtain ⟨u, hu, now, record⟩ := cut (Nat.le_of_not_lt soon)
    have complete := watch_complete hu
    have heard : u.guest.2.reverse = before cancel w.guest.2.reverse := by
      rw [record, before, before, List.filter_reverse]
    have course : Course ops (p.cancelledAt cancel) guest s fuel _ _ _ _ :=
      course_of_watch hs hp' hu
    rw [heard, now] at course
    refine ⟨u.bare.conclude ops guest .interrupted, run?_of_recorded hs hp' hu, ?_⟩
    refine ⟨(absurd · soon), fun _ => course, fun _ => ?_, fun _ => complete.stops_once, ?_⟩
    · refine ⟨_, rfl, rfl, rfl, rfl, congrArg UInt64.ofNat now, ?_⟩
      rw [← heard, List.filterMap_reverse, ← complete.output]
      rfl
    · rintro rfl
      have none : u.guest.2 = [] := record.trans (List.filter_eq_nil_iff.mpr (by simp))
      obtain ⟨calls, -⟩ | ⟨-, -, givenUp⟩ := complete.calls
      · simp [Watch.conclude, Watch.bare, calls, none]
      · exact absurd givenUp.after (by simp [now])

/-- A run that is over without a cancellation is over with one, and truncated by it. -/
theorem run?_truncated (never : p.cancelAt = none) (positive : 0 < p.timeoutMs)
    (hp : p.deadlineFits = true) (started : (ops.start s).1 = .ok ())
    (h : run? ops p guest s fuel = some o) :
    ∃ xs ended e, Course ops p guest s fuel o xs ended e ∧
      ∀ cancel, ∃ o', run? ops (p.cancelledAt cancel) guest s fuel = some o' ∧
        o.Truncated ops p guest s fuel xs ended cancel o' := by
  obtain ⟨f, s', hs, rfl⟩ | ⟨s', hs, unfit, rfl⟩ | ⟨s', v, e, hs, -, hv, rfl⟩ := run?_cases h
  · rw [hs] at started
    cases started
  · rw [hp] at unfit
    cases unfit
  · obtain ⟨w, hw, rfl⟩ := recorded_of_watch hv
    exact ⟨_, _, e, course_of_watch hs hp hw, run?_truncated_of_watch never positive hs hp hw⟩

/-- Under an accepted configuration whose deadline the clock can tell, every script and every
stream that can be started is run to an end, and a cancellation at any time truncates that run: if
it comes later than the end, report and calls are the same; if not, the run is over at the
cancellation, interrupted, with the lines that were heard before it, and the guest is stopped once.
A cancellation that is there from the start leaves no time for a read. -/
theorem cancellation_truncates {c : Config} (h : c.validate = .ok ()) {clock : Nat}
    (fits : clock + c.timeoutMs < clockEnd) (m : Markers) (echo : Bool) (guest : String)
    (onStop : Option Fault) :
    (∀ script : Script, ∃ o xs ended e,
      Script.run? (.ofConfig c m none clock echo) guest ⟨script, none, onStop⟩ = some o ∧
      Course (Playback.operations Script.read) (.ofConfig c m none clock echo) guest
        ⟨script, none, onStop⟩ ((Plan.ofConfig c m none clock echo).turns script.length)
        o xs ended e ∧
      ∀ cancel, ∃ o',
        Script.run? (.ofConfig c m (some cancel) clock echo) guest ⟨script, none, onStop⟩ =
          some o' ∧
        o.Truncated (Playback.operations Script.read) (.ofConfig c m none clock echo) guest
          ⟨script, none, onStop⟩ ((Plan.ofConfig c m none clock echo).turns script.length) xs ended
          cancel o') ∧
    ∀ reader : LineReader, ∃ o xs ended e,
      LineReader.run? (.ofConfig c m none clock echo) guest ⟨reader, none, onStop⟩ = some o ∧
      Course (Playback.operations LineReader.nextLine) (.ofConfig c m none clock echo) guest
        ⟨reader, none, onStop⟩ ((Plan.ofConfig c m none clock echo).turns reader.answers)
        o xs ended e ∧
      ∀ cancel, ∃ o',
        LineReader.run? (.ofConfig c m (some cancel) clock echo) guest ⟨reader, none, onStop⟩ =
          some o' ∧
        o.Truncated (Playback.operations LineReader.nextLine) (.ofConfig c m none clock echo) guest
          ⟨reader, none, onStop⟩ ((Plan.ofConfig c m none clock echo).turns reader.answers) xs ended
          cancel o' := by
  have accepted := Config.validate_eq_ok.mp h
  have hl := accepted.lineTimeoutMs_pos
  have positive : 0 < (Plan.ofConfig c m none clock echo).timeoutMs := accepted.timeoutMs_pos
  have hp := (Plan.deadlineFits_ofConfig c m none clock echo).mpr fits
  refine ⟨fun script => ?_, fun reader => ?_⟩
  · obtain ⟨o, ho⟩ := Script.run?_ends (p := .ofConfig c m none clock echo) hl guest
      ⟨script, none, onStop⟩
    obtain ⟨xs, ended, e, course, truncated⟩ := run?_truncated rfl positive hp rfl ho
    exact ⟨o, xs, ended, e, ho, course, truncated⟩
  · obtain ⟨o, ho⟩ := LineReader.run?_ends (p := .ofConfig c m none clock echo) hl guest
      ⟨reader, none, onStop⟩
    obtain ⟨xs, ended, e, course, truncated⟩ := run?_truncated rfl positive hp rfl ho
    exact ⟨o, xs, ended, e, ho, course, truncated⟩

/-- A cancellation at the time of the line that would have passed the run. -/
theorem cancellation_truncates_tie :
    Config.default.validate = .ok () ∧ 0 + Config.default.timeoutMs < clockEnd ∧
      ∃ o r o' r', Script.run? (.ofConfig .default .default none 0 false) "qemu"
          ⟨[.line "boot", .after 700 "PASS"], none, none⟩ = some o ∧ o.report = some r ∧
        r.status = .passed ∧
        Script.run? (.ofConfig .default .default (some 700) 0 false) "qemu"
          ⟨[.line "boot", .after 700 "PASS"], none, none⟩ = some o' ∧ o'.report = some r' ∧
        r'.message = some "run interrupted" ∧ r'.elapsedMs = 700 ∧ o'.calls.count .stop = 1 := by
  have valid : Config.default.validate = .ok () := rfl
  have fits : 0 + Config.default.timeoutMs < clockEnd := by decide
  obtain ⟨scripts, -⟩ := cancellation_truncates valid fits .default false "qemu" none
  obtain ⟨o, xs, ended, e, ho, course, cut⟩ := scripts [.line "boot", .after 700 "PASS"]
  obtain ⟨s', w, hs, hw, now, rfl⟩ := course.watched
  cases hs
  have plan : Plan.ofConfig .default .default none 0 false =
      ⟨60000, 1000, .default, none, 0, false⟩ := rfl
  rw [plan] at hw
  cases hw
  have reached : 700 ≤ ended := now ▸ by decide
  obtain ⟨o', ho', truncated⟩ := cut 700
  obtain ⟨r', hr', -, message, -, elapsed, -⟩ := truncated.report reached
  exact ⟨valid, fits, _, _, o', r', ho, rfl, rfl, ho', hr', message, elapsed,
    truncated.stops reached⟩

end GuestWatch.Run
