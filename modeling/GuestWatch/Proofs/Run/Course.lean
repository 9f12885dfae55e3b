import GuestWatch.Proofs.Run.Watch

/-! # The course of a run

A guest can write down the reads that it answers. A run over such a guest goes as it would without
the record, and the record tells what the run has heard and when: each read was asked for before
the deadline and answered before any cancellation, none but the last of them decided anything, and
the ending follows from the last.
-/
namespace GuestWatch

/-- A read that has been answered. Its beginning is counted from the start of the run. -/
structure Exchange where
  begun : Nat
  wait : Nat
  took : Nat
  answer : Reading

namespace Exchange

def ended (x : Exchange) : Nat := x.begun + x.took

/-- The line that an exchange has given, if it has. -/
def line? (x : Exchange) : Option String := x.answer.toOption.join

theorem line?_of_ok {x : Exchange} {heard : Option String} (h : x.answer = .ok heard) :
    x.line? = heard := by
  rw [line?, h]
  rfl

theorem line?_of_error {x : Exchange} {f : Fault} (h : x.answer = .error f) : x.line? = none := by
  rw [line?, h]
  rfl

def call (x : Exchange) : Run.Call := .read x.wait false

/-- The time at which exchanges that come latest first have brought a run. -/
def clock : List Exchange → Nat
  | [] => 0
  | x :: _ => x.ended

/-- An exchange that gives neither a fault nor a line that decides. -/
def Undecided (m : Markers) (x : Exchange) : Prop :=
  ∃ heard, x.answer = .ok heard ∧ ∀ line ∈ heard, m.classify line = none

theorem not_undecided_of_error {m : Markers} {x : Exchange} {f : Fault}
    (h : x.answer = .error f) : ¬ x.Undecided m := by
  rintro ⟨heard, answer, -⟩
  rw [h] at answer
  cases answer

theorem not_undecided_of_verdict {m : Markers} {x : Exchange} {line : String} {v : Verdict}
    (h : x.answer = .ok (some line)) (verdict : m.classify line = some v) : ¬ x.Undecided m := by
  rintro ⟨heard, answer, undecided⟩
  rw [h] at answer
  cases answer
  rw [undecided line rfl] at verdict
  cases verdict

end Exchange

variable {σ : Type}

/-- A guest that writes down the reads that it answers, latest first. -/
def Operations.recorded (ops : Operations σ) : Operations (σ × List Exchange) where
  start g := ((ops.start g.1).1, (ops.start g.1).2, g.2)
  read g wait :=
    let (answer, took, guest) := ops.read g.1 wait
    (answer, took, guest, ⟨Exchange.clock g.2, wait, took, answer⟩ :: g.2)
  stop g := ((ops.stop g.1).1, (ops.stop g.1).2, g.2)

theorem Operations.recorded_read {ops : Operations σ} {g g' : σ × List Exchange}
    {wait took : Nat} {answer : Reading} (h : ops.recorded.read g wait = (answer, took, g')) :
    ops.read g.1 wait = (answer, took, g'.1) ∧
      g'.2 = ⟨Exchange.clock g.2, wait, took, answer⟩ :: g.2 := by
  simp only [recorded, Prod.mk.injEq] at h
  obtain ⟨rfl, rfl, rfl⟩ := h
  exact ⟨rfl, rfl⟩

namespace Run

variable {ops : Operations σ} {p : Plan} {w w' : Watch (σ × List Exchange)} {e : Ending}
  {fuel : Nat}

/-! ## The record changes nothing -/

/-- A watch over a guest that keeps a record, without the record. -/
def Watch.bare (w : Watch (σ × List Exchange)) : Watch σ :=
  ⟨w.now, w.guest.1, w.calls, w.output, w.shown⟩

theorem Watch.Answered.bare {answer : Reading} {took : Nat} {g : σ × List Exchange}
    (h : w.Answered ops.recorded p answer took g) : w.bare.Answered ops p answer took g.1 :=
  ⟨h.early, (Operations.recorded_read h.read).1, h.uncancelled⟩

theorem Turn.bare {e : Option Ending} (h : Turn ops.recorded p w w' e) :
    Turn ops p w.bare w'.bare e := by
  cases h with
  | expired late => exact .expired late
  | cancelled early come => exact .cancelled early come
  | abandoned answer took g early before read come =>
    exact .abandoned answer took g.1 early before (Operations.recorded_read read).1 come
  | failed f took g h => exact .failed f took g.1 h.bare
  | silent took g h => exact .silent took g.1 h.bare
  | decided line v took g h verdict => exact .decided line v took g.1 h.bare verdict
  | heard line took g h verdict => exact .heard line took g.1 h.bare verdict

theorem watch_bare (ops : Operations σ) (p : Plan) (w : Watch (σ × List Exchange)) (fuel : Nat) :
    watch ops p w.bare fuel = (watch ops.recorded p w fuel).map fun (w, e) => (w.bare, e) := by
  induction fuel generalizing w with
  | zero => rfl
  | succ fuel ih =>
    have ht := (turn_spec ops.recorded p w).bare.eq
    rcases hv : turn ops.recorded p w with ⟨v, _ | e⟩
    · simp only [watch, ht, hv]
      exact ih v
    · simp only [watch, ht, hv, Option.map_some]

/-! ## What the record tells -/

/-- An exchange that a plan asks for and a guest answers, before any cancellation. -/
structure Plan.Allows (p : Plan) (ops : Operations σ) (x : Exchange) : Prop where
  early : x.begun < p.timeoutMs
  wait : x.wait = p.waitAt x.begun
  read : ∃ s s', ops.read s x.wait = (x.answer, x.took, s')
  uncancelled : p.cancelledBy x.ended = false

/-- A watch between two of its turns knows what its guest has written down, and nothing of that
has decided. -/
structure Watch.Level (ops : Operations σ) (p : Plan) (w : Watch (σ × List Exchange)) :
    Prop where
  time : w.now = Exchange.clock w.guest.2
  output : w.output = w.guest.2.filterMap Exchange.line?
  calls : w.calls = w.guest.2.map Exchange.call ++ [.start]
  allowed : ∀ x ∈ w.guest.2, p.Allows ops x
  undecided : ∀ x ∈ w.guest.2, x.Undecided p.markers

theorem Watch.Level.fresh (s : σ) : (Watch.fresh (s, [])).Level ops p :=
  ⟨rfl, rfl, rfl, by simp [Watch.fresh], by simp [Watch.fresh]⟩

/-- What a read that is answered at a watch adds to the record. -/
def Watch.exchange (p : Plan) (w : Watch (σ × List Exchange)) (took : Nat) (answer : Reading) :
    Exchange := ⟨w.now, p.waitAt w.now, took, answer⟩

theorem Watch.Level.answered {answer : Reading} {took : Nat} {g : σ × List Exchange}
    (level : w.Level ops p) (h : w.Answered ops.recorded p answer took g) :
    g.2 = w.exchange p took answer :: w.guest.2 ∧ p.Allows ops (w.exchange p took answer) := by
  obtain ⟨read, record⟩ := Operations.recorded_read h.read
  rw [← level.time] at record
  exact ⟨record, ⟨h.early, rfl, ⟨w.guest.1, g.1, read⟩, h.uncancelled⟩⟩

theorem Watch.Level.turn (level : w.Level ops p) (ht : Turn ops.recorded p w w' none) :
    w'.Level ops p := by
  cases ht with
  | silent took g h =>
    obtain ⟨record, allowed⟩ := level.answered h
    have undecided : (w.exchange p took (.ok none)).Undecided p.markers := ⟨none, rfl, by simp⟩
    constructor <;> simp only [Watch.advance, record]
    · rfl
    · exact level.output
    · rw [level.calls]
      rfl
    · exact List.forall_mem_cons.mpr ⟨allowed, level.allowed⟩
    · exact List.forall_mem_cons.mpr ⟨undecided, level.undecided⟩
  | heard line took g h verdict =>
    obtain ⟨record, allowed⟩ := level.answered h
    have undecided : (w.exchange p took (.ok (some line))).Undecided p.markers :=
      ⟨some line, rfl, by simpa using verdict⟩
    constructor <;> simp only [Watch.advance, Watch.hear, record]
    · rfl
    · rw [level.output]
      rfl
    · rw [level.calls]
      rfl
    · exact List.forall_mem_cons.mpr ⟨allowed, level.allowed⟩
    · exact List.forall_mem_cons.mpr ⟨undecided, level.undecided⟩

/-- How a record, which comes latest first, leads to the time and the ending of a watch. -/
inductive Closing (p : Plan) : List Exchange → Nat → Ending → Prop
  | expired {xs : List Exchange} (undecided : ∀ x ∈ xs, x.Undecided p.markers)
    (late : p.timeoutMs ≤ Exchange.clock xs) :
    Closing p xs (Exchange.clock xs) (.fault (.timedOut p.timeoutMs))
  | interrupted {xs : List Exchange} {cancel : Nat} (undecided : ∀ x ∈ xs, x.Undecided p.markers)
    (set : p.cancelAt = some cancel) : Closing p xs cancel .interrupted
  | failed {xs : List Exchange} {x : Exchange} {f : Fault}
    (undecided : ∀ x ∈ xs, x.Undecided p.markers) (answer : x.answer = .error f) :
    Closing p (x :: xs) x.ended (.fault f)
  | decided {xs : List Exchange} {x : Exchange} {line : String} {v : Verdict}
    (undecided : ∀ x ∈ xs, x.Undecided p.markers) (answer : x.answer = .ok (some line))
    (verdict : p.markers.classify line = some v) : Closing p (x :: xs) x.ended (.decided v)

/-- A read that is asked for at a time and given up for a cancellation before its answer. -/
structure Plan.GivesUp (p : Plan) (ops : Operations σ) (begun cancel : Nat) : Prop where
  early : begun < p.timeoutMs
  set : p.cancelAt = some cancel
  after : begun < cancel
  read : ∃ s answer took s', ops.read s (p.waitAt begun) = (answer, took, s') ∧
    cancel ≤ begun + took

/-- A watch that has ended knows what its guest has written down, and how that led to the end. -/
structure Watch.Complete (ops : Operations σ) (p : Plan) (w : Watch (σ × List Exchange))
    (e : Ending) : Prop where
  output : w.output = w.guest.2.filterMap Exchange.line?
  calls : w.calls = w.guest.2.map Exchange.call ++ [.start] ∧ w.now = Exchange.clock w.guest.2 ∨
    w.calls = .read (p.waitAt (Exchange.clock w.guest.2)) true ::
      w.guest.2.map Exchange.call ++ [.start] ∧
      e = .interrupted ∧ p.GivesUp ops (Exchange.clock w.guest.2) w.now
  allowed : ∀ x ∈ w.guest.2, p.Allows ops x
  closing : Closing p w.guest.2 w.now e

theorem Plan.lt_of_uncancelled {cancel time : Nat} (set : p.cancelAt = some cancel)
    (h : p.cancelledBy time = false) : time < cancel := by
  simpa [cancelledBy, set] using h

/-- A cancellation can have come before a turn only if it was there from the start. -/
theorem Watch.Level.now_of_cancelled (level : w.Level ops p) {cancel : Nat}
    (set : p.cancelAt = some cancel) (come : cancel ≤ w.now) : w.now = cancel := by
  have time := level.time
  rcases hr : w.guest.2 with _ | ⟨x, earlier⟩ <;> rw [hr] at time
  · have : w.now = 0 := time
    omega
  · have hx : x ∈ w.guest.2 := hr ▸ List.mem_cons_self
    have before : x.ended < cancel := Plan.lt_of_uncancelled set (level.allowed x hx).uncancelled
    have : w.now = x.ended := time
    omega

theorem Watch.Level.done (level : w.Level ops p) (ht : Turn ops.recorded p w w' (some e)) :
    w'.Complete ops p e := by
  cases ht with
  | expired late =>
    refine ⟨level.output, .inl ⟨level.calls, level.time⟩, level.allowed, ?_⟩
    rw [level.time] at late ⊢
    exact .expired level.undecided late
  | cancelled early come =>
    obtain ⟨cancel, set, hc⟩ := Plan.cancelledBy_iff.mp come
    refine ⟨level.output, .inl ⟨level.calls, level.time⟩, level.allowed, ?_⟩
    rw [level.now_of_cancelled set hc]
    exact .interrupted level.undecided set
  | abandoned answer took g early before read come =>
    obtain ⟨cancel, set, hc⟩ := Plan.cancelledBy_iff.mp come
    have now : (w.abandon p).now = cancel := by simp [Watch.abandon, set]
    refine ⟨level.output, .inr ⟨?_, rfl, ?_⟩, level.allowed, ?_⟩
    · simp only [Watch.abandon, level.calls, ← level.time]
      rfl
    · simp only [Watch.abandon, set, Option.getD_some, ← level.time]
      exact ⟨early, set, Plan.lt_of_uncancelled set before, w.guest.1, answer, took, g.1,
        (Operations.recorded_read read).1, hc⟩
    · rw [now]
      exact .interrupted level.undecided set
  | failed f took g h =>
    obtain ⟨record, allowed⟩ := level.answered h
    constructor <;> simp only [Watch.advance, record]
    · exact level.output
    · rw [level.calls]
      exact .inl ⟨rfl, rfl⟩
    · exact List.forall_mem_cons.mpr ⟨allowed, level.allowed⟩
    · exact .failed level.undecided rfl
  | decided line v took g h verdict =>
    obtain ⟨record, allowed⟩ := level.answered h
    constructor <;> simp only [Watch.advance, Watch.hear, record]
    · rw [level.output]
      rfl
    · rw [level.calls]
      exact .inl ⟨rfl, rfl⟩
    · exact List.forall_mem_cons.mpr ⟨allowed, level.allowed⟩
    · exact .decided level.undecided rfl verdict

theorem watch_complete {s : σ} (h : watch ops.recorded p (.fresh (s, [])) fuel = some (w, e)) :
    w.Complete ops p e :=
  watch_induction Watch.Level.turn Watch.Level.done (Watch.Level.fresh s) h

/-! ## Runs -/

/-- What is known of a run over a guest that could be started: the reads that the guest has
answered by its own record, in order, and when and how the watch over it ended. -/
structure Course (ops : Operations σ) (p : Plan) (guest : String) (s : σ) (fuel : Nat)
    (o : Outcome σ) (xs : List Exchange) (ended : Nat) (e : Ending) : Prop where
  recorded : ∃ o', run? ops.recorded p guest (s, []) fuel = some o' ∧ o'.report = o.report ∧
    o'.calls = o.calls ∧ o'.guest.2.reverse = xs
  watched : ∃ s' w, ops.start s = (.ok (), s') ∧ watch ops p (.fresh s') fuel = some (w, e) ∧
    w.now = ended ∧ o = w.conclude ops guest e

variable {guest : String} {s s' : σ} {o : Outcome σ}

theorem watch_of_recorded (h : watch ops.recorded p (.fresh (s', [])) fuel = some (w, e)) :
    watch ops p (.fresh s') fuel = some (w.bare, e) :=
  (watch_bare ops p (.fresh (s', [])) fuel).trans (by rw [h]; rfl)

theorem recorded_of_watch {v : Watch σ} (h : watch ops p (.fresh s') fuel = some (v, e)) :
    ∃ w : Watch (σ × List Exchange), watch ops.recorded p (.fresh (s', [])) fuel = some (w, e) ∧
      w.bare = v := by
  have bare := (watch_bare ops p (.fresh (s', [])) fuel).symm.trans h
  obtain ⟨⟨w, e'⟩, hw, he⟩ := Option.map_eq_some_iff.mp bare
  obtain ⟨rfl, rfl⟩ := Prod.mk.inj he
  exact ⟨w, hw, rfl⟩

theorem run?_of_recorded (hs : ops.start s = (.ok (), s')) (hp : p.deadlineFits = true)
    (h : watch ops.recorded p (.fresh (s', [])) fuel = some (w, e)) :
    run? ops p guest s fuel = some (w.bare.conclude ops guest e) := by
  rw [run?_of_started ops hs hp, watch_of_recorded h]
  rfl

theorem course_of_watch (hs : ops.start s = (.ok (), s')) (hp : p.deadlineFits = true)
    (h : watch ops.recorded p (.fresh (s', [])) fuel = some (w, e)) :
    Course ops p guest s fuel (w.bare.conclude ops guest e) w.guest.2.reverse w.now e where
  recorded := by
    have hr : ops.recorded.start (s, []) = (.ok (), s', []) := by simp [Operations.recorded, hs]
    refine ⟨w.conclude ops.recorded guest e, ?_, rfl, rfl, rfl⟩
    rw [run?_of_started _ hr hp, h]
    rfl
  watched := ⟨s', w.bare, hs, watch_of_recorded h, rfl, rfl⟩

/-- A run that started its guest and left a report has a course, and its guest's record accounts
for the report and the calls. -/
theorem run?_course {r : Report} (h : run? ops p guest s fuel = some o) (hr : o.report = some r)
    (started : (ops.start s).1 = .ok ()) :
    ∃ (w : Watch (σ × List Exchange)) (e : Ending), w.Complete ops p e ∧
      Course ops p guest s fuel o w.guest.2.reverse w.now e ∧ r = finished guest w e ∧
      o.calls = (.stop :: w.calls).reverse := by
  obtain ⟨f, s', hs, rfl⟩ | ⟨s', hs, hp, rfl⟩ | ⟨s', v, e, hs, hp, hv, rfl⟩ := run?_cases h
  · rw [hs] at started
    cases started
  · cases hr
  · obtain ⟨w, hw, rfl⟩ := recorded_of_watch hv
    exact ⟨w, e, watch_complete hw, course_of_watch hs hp hw, (Option.some.inj hr).symm, rfl⟩

end Run

end GuestWatch
