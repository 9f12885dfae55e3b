import GuestWatch.Emulator
import Mathlib.Data.Option.Basic
import Mathlib.Logic.Relation

/-! # Stopping an emulator

A child is ended step by step: it is looked at, asked to exit, waited for, and killed when it has
not exited. It may exit between any two of these steps, and every step may come late. However that
goes, the ending goes on until the child has exited and is reaped, nobody asks a child that was seen
to have exited, and only a child that has outlived the grace period is killed. `Child.terminate` is
the ending in which no step is late.
-/
namespace GuestWatch

open Relation

/-! ## When a child exits -/

namespace Child

variable {c : Child} {asked since time time' : Nat}

@[simp] theorem pass_zero (c : Child) : c.pass 0 = c := by
  simp [pass]

@[simp] theorem pass_pass (c : Child) (ms ms' : Nat) :
    (c.pass ms).pass ms' = c.pass (ms + ms') := by
  simp [pass, Function.comp_def, Nat.sub_sub]

@[simp] theorem receive_kill_pass (c : Child) (ms : Nat) :
    (c.receive .kill).pass ms = (c.pass ms).receive .kill := by
  simp [receive, pass]

@[simp] theorem hasExited_kill (c : Child) : (c.receive .kill).hasExited = true := rfl

theorem exitsIn_term (c : Child) : (c.receive .term).exitsIn =
    if c.isDeaf then c.exitsIn else some (min c.termDelay (c.exitsIn.getD c.termDelay)) := by
  rw [receive]
  split <;> rfl

theorem hasExited_pass : (c.pass time).hasExited ↔ ∃ ms ∈ c.exitsIn, ms ≤ time := by
  cases h : c.exitsIn <;> simp [pass, hasExited, h, Nat.sub_eq_zero_iff_le]

theorem hasExited_pass_of_hasExited (h : c.hasExited) : (c.pass time).hasExited := by
  obtain ⟨ms, exits, now⟩ := hasExited_pass.mp (by rwa [pass_zero] : (c.pass 0).hasExited)
  exact hasExited_pass.mpr ⟨ms, exits, by omega⟩

/-- The child at the time it has been asked to exit. -/
def askedAt (c : Child) (asked : Nat) : Child := (c.pass asked).receive .term

/-- A child that is asked to exit at one time has exited by another: it exits by itself until then,
or it was not deaf when it was asked, and its delay has gone by. -/
def Yields (c : Child) (asked time : Nat) : Prop :=
  (∃ ms ∈ c.exitsIn, ms ≤ time) ∨ (∀ ms ∈ c.deafIn, asked < ms) ∧ asked + c.termDelay ≤ time

instance : Decidable (c.Yields asked time) := inferInstanceAs (Decidable (_ ∨ _))

theorem Yields.mono (h : c.Yields asked time) (le : time ≤ time') : c.Yields asked time' := by
  obtain ⟨ms, exits, early⟩ | ⟨hears, early⟩ := h
  · exact .inl ⟨ms, exits, by omega⟩
  · exact .inr ⟨hears, by omega⟩

theorem isDeaf_pass : (c.pass asked).isDeaf = false ↔ ∀ ms ∈ c.deafIn, asked < ms := by
  cases h : c.deafIn <;> simp [pass, isDeaf, h, Nat.sub_eq_zero_iff_le]

theorem hasExited_askedAt :
    ((c.askedAt asked).pass since).hasExited ↔ c.Yields asked (asked + since) := by
  rw [hasExited_pass, Yields, ← isDeaf_pass, askedAt, exitsIn_term]
  cases deaf : (c.pass asked).isDeaf with
  | true => simp [pass, Nat.add_comm]
  | false =>
    cases exits : c.exitsIn with
    | none => simp [pass, exits]
    | some ms =>
      simp only [pass, exits, Bool.false_eq_true, if_false, Option.map_some, Option.getD_some,
        Option.mem_some_iff, exists_eq_left', true_and]
      omega

theorem yields_zero_iff : c.Yields 0 time ↔ ∃ ms ∈ (c.receive .term).exitsIn, ms ≤ time := by
  rw [← hasExited_pass, ← Nat.zero_add time, ← hasExited_askedAt, askedAt, pass_zero, Nat.zero_add]

end Child

/-! ## The steps of an ending -/

/-- How far an ending has come. -/
inductive Ending.Phase
  | looking
  | asking
  | waiting (left : Nat)
  | killing
  | reaping
  | finished (answer : Except String Unit)

/-- A child that is being ended: the signals sent to it, the time since the beginning, and how much
of this time steps were late. -/
structure Ending where
  phase : Ending.Phase
  child : Child
  signals : List Signal
  took : Nat
  late : Nat

namespace Ending

/-- An ending at its beginning. -/
def ofChild (c : Child) : Ending := ⟨.looking, c, [], 0, 0⟩

/-- An ending at its end. -/
def ofTermination (t : Child.Termination) (late : Nat) : Ending :=
  ⟨.finished t.answer, t.child, t.signals, t.took, late⟩

/-- What can happen next. The wait sees an exit before it sees that its time is up. -/
inductive Step (grace : Nat) : Ending → Ending → Prop
  | lags {phase : Phase} {c : Child} {signals : List Signal} {took late : Nat}
    (unfinished : ∀ answer, phase ≠ .finished answer) :
    Step grace ⟨phase, c, signals, took, late⟩ ⟨phase, c.pass 1, signals, took + 1, late + 1⟩
  | fails {c : Child} {signals : List Signal} {took late : Nat} {reason : String}
    (fault : c.waitFault = some reason) :
    Step grace ⟨.looking, c, signals, took, late⟩
      ⟨.finished (.error reason), c, signals, took, late⟩
  | sees {c : Child} {signals : List Signal} {took late : Nat}
    (sound : c.waitFault = none) (exited : c.hasExited) :
    Step grace ⟨.looking, c, signals, took, late⟩ ⟨.finished (.ok ()), c.reap, signals, took, late⟩
  | misses {c : Child} {signals : List Signal} {took late : Nat}
    (sound : c.waitFault = none) (alive : c.hasExited = false) :
    Step grace ⟨.looking, c, signals, took, late⟩ ⟨.asking, c, signals, took, late⟩
  | asks {c : Child} {signals : List Signal} {took late : Nat} :
    Step grace ⟨.asking, c, signals, took, late⟩
      ⟨.waiting grace, c.receive .term, signals ++ [.term], took, late⟩
  | waits {c : Child} {signals : List Signal} {took late left : Nat}
    (alive : c.hasExited = false) :
    Step grace ⟨.waiting (left + 1), c, signals, took, late⟩
      ⟨.waiting left, c.pass 1, signals, took + 1, late⟩
  | ends {c : Child} {signals : List Signal} {took late left : Nat} (exited : c.hasExited) :
    Step grace ⟨.waiting left, c, signals, took, late⟩
      ⟨.finished (.ok ()), c.reap, signals, took, late⟩
  | tires {c : Child} {signals : List Signal} {took late : Nat} (alive : c.hasExited = false) :
    Step grace ⟨.waiting 0, c, signals, took, late⟩ ⟨.killing, c, signals, took, late⟩
  | kills {c : Child} {signals : List Signal} {took late : Nat} :
    Step grace ⟨.killing, c, signals, took, late⟩
      ⟨.reaping, c.receive .kill, signals ++ [.kill], took, late⟩
  | reaps {c : Child} {signals : List Signal} {took late : Nat} (exited : c.hasExited) :
    Step grace ⟨.reaping, c, signals, took, late⟩ ⟨.finished (.ok ()), c.reap, signals, took, late⟩

/-! ## Where an ending can stand -/

variable {c : Child} {grace asked since late : Nat} {e e' : Ending}

/-- A child that was alive at first and has been asked to exit some time ago. Only late steps keep
the ending going after it has exited. -/
structure Asked (c : Child) (asked since late : Nat) : Prop where
  sound : c.waitFault = none
  alive : c.hasExited = false
  early : asked ≤ late
  prompt : ∀ time, c.Yields asked time → asked + since ≤ time + late

/-- A child that had not exited when the grace period was over. -/
def Outlives (c : Child) (grace asked late : Nat) : Prop :=
  ∃ last, asked + grace ≤ last ∧ last ≤ grace + late ∧ ¬ c.Yields asked last

theorem Asked.lag (h : Asked c asked since late) : Asked c asked (since + 1) (late + 1) where
  sound := h.sound
  alive := h.alive
  early := by have := h.early; omega
  prompt time yields := by have := h.prompt time yields; omega

theorem Asked.wait (h : Asked c asked since late)
    (alive : ((c.askedAt asked).pass since).hasExited = false) :
    Asked c asked (since + 1) late where
  sound := h.sound
  alive := h.alive
  early := h.early
  prompt time yields := by
    -- The time that passes now is not lost: the child is still alive.
    have later : asked + since < time := by
      by_contra early
      exact Bool.eq_false_iff.mp alive
        (Child.hasExited_askedAt.mpr (yields.mono (Nat.le_of_not_lt early)))
    omega

theorem Outlives.lag (h : Outlives c grace asked late) : Outlives c grace asked (late + 1) := by
  obtain ⟨last, patient, early, alive⟩ := h
  exact ⟨last, patient, by omega, alive⟩

/-- All the places where an ending that began with a child can stand. -/
inductive Course (c : Child) (grace : Nat) : Ending → Prop
  | looking {late : Nat} : Course c grace ⟨.looking, c.pass late, [], late, late⟩
  | asking {late : Nat} (sound : c.waitFault = none) (alive : c.hasExited = false) :
    Course c grace ⟨.asking, c.pass late, [], late, late⟩
  | waiting {asked since late left : Nat} (begun : Asked c asked since late)
    (clock : asked + since + left = grace + late) :
    Course c grace
      ⟨.waiting left, (c.askedAt asked).pass since, [.term], asked + since, late⟩
  | killing {asked since late : Nat} (begun : Asked c asked since late)
    (clock : asked + since = grace + late) (outlives : Outlives c grace asked late) :
    Course c grace ⟨.killing, (c.askedAt asked).pass since, [.term], asked + since, late⟩
  | reaping {asked since late : Nat} (begun : Asked c asked since late)
    (clock : asked + since = grace + late) (outlives : Outlives c grace asked late) :
    Course c grace ⟨.reaping, ((c.askedAt asked).pass since).receive .kill, [.term, .kill],
      asked + since, late⟩
  | failed {late : Nat} {reason : String} (fault : c.waitFault = some reason) :
    Course c grace ⟨.finished (.error reason), c.pass late, [], late, late⟩
  | seen {late : Nat} (sound : c.waitFault = none) (exited : (c.pass late).hasExited) :
    Course c grace ⟨.finished (.ok ()), (c.pass late).reap, [], late, late⟩
  | heeded {asked since late : Nat} (begun : Asked c asked since late)
    (clock : asked + since ≤ grace + late)
    (exited : ((c.askedAt asked).pass since).hasExited) :
    Course c grace
      ⟨.finished (.ok ()), ((c.askedAt asked).pass since).reap, [.term], asked + since, late⟩
  | killed {asked since late : Nat} (begun : Asked c asked since late)
    (clock : asked + since = grace + late) (outlives : Outlives c grace asked late) :
    Course c grace ⟨.finished (.ok ()), (((c.askedAt asked).pass since).receive .kill).reap,
      [.term, .kill], asked + since, late⟩

theorem Course.lag {phase : Phase} {child : Child} {signals : List Signal} {took : Nat}
    (h : Course c grace ⟨phase, child, signals, took, late⟩)
    (unfinished : ∀ answer, phase ≠ .finished answer) :
    Course c grace ⟨phase, child.pass 1, signals, took + 1, late + 1⟩ := by
  cases h with
  | looking => rw [Child.pass_pass]; exact .looking
  | asking sound alive => rw [Child.pass_pass]; exact .asking sound alive
  | waiting begun clock => rw [Child.pass_pass]; exact .waiting begun.lag (by omega)
  | killing begun clock outlives =>
    rw [Child.pass_pass]
    exact .killing begun.lag (by omega) outlives.lag
  | reaping begun clock outlives =>
    rw [Child.receive_kill_pass, Child.pass_pass]
    exact .reaping begun.lag (by omega) outlives.lag
  | failed | seen | heeded | killed => exact absurd rfl (unfinished _)

theorem Course.asks (sound : c.waitFault = none) (alive : c.hasExited = false) : Course c grace
    ⟨.waiting grace, (c.pass late).receive .term, [.term], late, late⟩ := by
  have begun : Asked c late 0 late := ⟨sound, alive, Nat.le_refl late, fun time _ => by omega⟩
  have place := Course.waiting begun (Nat.add_comm late grace)
  rwa [Child.pass_zero] at place

/-- No step leaves the course. -/
theorem Step.course (step : Step grace e e') (h : Course c grace e) : Course c grace e' := by
  cases step with
  | lags unfinished => exact h.lag unfinished
  | fails fault => cases h; exact .failed fault
  | sees sound exited => cases h; exact .seen sound exited
  | misses sound alive =>
    cases h
    -- A child that is alive when it is looked at was so at the beginning.
    refine .asking sound (Bool.eq_false_iff.mpr fun exited => ?_)
    exact Bool.eq_false_iff.mp alive (Child.hasExited_pass_of_hasExited exited)
  | asks =>
    cases h with
    | asking sound alive => exact .asks sound alive
  | waits alive =>
    cases h with
    | waiting begun clock =>
      rw [Child.pass_pass]
      exact .waiting (begun.wait alive) (by omega)
  | ends exited =>
    cases h with
    | waiting begun clock => exact .heeded begun (by omega) exited
  | tires alive =>
    cases h with
    | @waiting asked since late _ begun clock =>
      have early := begun.early
      -- The last look is made here, and steps may have made it later than the grace period asks.
      refine .killing begun clock ⟨asked + since, by omega, by omega, fun yields => ?_⟩
      exact Bool.eq_false_iff.mp alive (Child.hasExited_askedAt.mpr yields)
  | kills =>
    cases h with
    | killing begun clock outlives => exact .reaping begun clock outlives
  | reaps exited =>
    cases h with
    | reaping begun clock outlives => exact .killed begun clock outlives

theorem course (h : ReflTransGen (Step grace) (ofChild c) e) : Course c grace e := by
  induction h with
  | refl =>
    have place : Course c grace ⟨.looking, c.pass 0, [], 0, 0⟩ := .looking
    rwa [Child.pass_zero] at place
  | tail _ step ih => exact step.course ih

/-! ## Every ending comes to its end -/

/-- How many steps there can still be, the late ones aside. -/
def Phase.remaining (grace : Nat) : Phase → Nat
  | .looking => grace + 5
  | .asking => grace + 4
  | .waiting left => left + 3
  | .killing => 2
  | .reaping => 1
  | .finished _ => 0

theorem Step.remaining_lt (step : Step grace e e') :
    e'.phase.remaining grace + e.late < e.phase.remaining grace + e'.late := by
  cases step <;> simp only [Phase.remaining] <;> omega

/-- An ending that is not over can go on without being late. -/
theorem Course.onward (h : Course c grace e) :
    (∃ answer, e.phase = .finished answer) ∨ ∃ e', Step grace e e' ∧ e'.late = e.late := by
  cases h with
  | @looking late =>
    cases fault : c.waitFault with
    | some reason => exact .inr ⟨_, .fails fault, rfl⟩
    | none =>
      cases exited : (c.pass late).hasExited with
      | true => exact .inr ⟨_, .sees fault exited, rfl⟩
      | false => exact .inr ⟨_, .misses fault exited, rfl⟩
  | asking => exact .inr ⟨_, .asks, rfl⟩
  | @waiting asked since late left =>
    cases exited : ((c.askedAt asked).pass since).hasExited with
    | true => exact .inr ⟨_, .ends exited, rfl⟩
    | false =>
      cases left with
      | zero => exact .inr ⟨_, .tires exited, rfl⟩
      | succ left => exact .inr ⟨_, .waits exited, rfl⟩
  | killing => exact .inr ⟨_, .kills, rfl⟩
  | reaping => exact .inr ⟨_, .reaps (Child.hasExited_kill _), rfl⟩
  | failed | seen | heeded | killed => exact .inl ⟨_, rfl⟩

/-- The steps that remain grow fewer, so no ending is stuck or goes on forever. -/
theorem Course.finishes (h : Course c grace e) :
    ∃ t, ReflTransGen (Step grace) e (.ofTermination t e.late) := by
  induction n : e.phase.remaining grace using Nat.strongRecOn generalizing e with
  | ind n ih =>
    obtain ⟨answer, ended⟩ | ⟨e', step, onTime⟩ := h.onward
    · obtain ⟨phase, child, signals, took, late⟩ := e
      cases ended
      exact ⟨⟨answer, signals, took, child⟩, .refl⟩
    · have less := step.remaining_lt
      obtain ⟨t, rest⟩ := ih (e'.phase.remaining grace) (by omega) (step.course h) rfl
      exact ⟨t, .head step (onTime ▸ rest)⟩

end Ending

/-! ## What ending a child comes to -/

namespace Child

variable {c : Child} {grace late ms : Nat} {t : Termination}

/-- One way in which the ending of a child can go when its steps are so late altogether. -/
def EndsAs (c : Child) (grace late : Nat) (t : Termination) : Prop :=
  ReflTransGen (Ending.Step grace) (.ofChild c) (.ofTermination t late)

/-- What is asked of an ending: it leaves nothing behind and is no harder than needed. Where steps
were late the child was asked at a later time, and the last chance to exit came later too. -/
structure Termination.IsMeasured (t : Termination) (c : Child) (grace late : Nat) : Prop where
  answer : t.answer = .ok ()
  exited : t.child.hasExited
  reaped : t.child.reaped
  escalates : t.signals <+: [.term, .kill]
  spares : c.hasExited → t.signals = []
  kills : ∃ asked last, asked ≤ late ∧ asked + grace ≤ last ∧ last ≤ grace + late ∧
    (.kill ∈ t.signals ↔ ¬ c.Yields asked last)
  prompt : ∃ asked ≤ late, ∀ time, c.Yields asked time → t.took ≤ time + late
  inTime : t.took ≤ grace + late

theorem terminate_of_yields (sound : c.waitFault = none) (alive : c.hasExited = false)
    (exits : (c.receive .term).exitsIn = some ms) (inTime : ms ≤ grace) :
    c.terminate grace = ⟨.ok (), [.term], ms, ((c.receive .term).pass ms).reap⟩ := by
  simp [terminate, sound, alive, exits, Option.filter, inTime]

theorem terminate_of_outlives (sound : c.waitFault = none) (alive : c.hasExited = false)
    (outlives : ¬ c.Yields 0 grace) : c.terminate grace =
      ⟨.ok (), [.term, .kill], grace, (((c.receive .term).pass grace).receive .kill).reap⟩ := by
  have stays : (c.receive .term).exitsIn.filter (· ≤ grace) = none := by
    refine Option.filter_eq_none_iff.mpr fun ms exits inTime => outlives ?_
    exact yields_zero_iff.mpr ⟨ms, exits, of_decide_eq_true inTime⟩
  simp [terminate, sound, alive, stays]

end Child

namespace Ending

variable {c : Child} {grace late took : Nat} {answer : Except String Unit} {child : Child}
  {signals : List Signal}

theorem Course.isMeasured (h : Course c grace ⟨.finished answer, child, signals, took, late⟩)
    (sound : c.waitFault = none) :
    Child.Termination.IsMeasured ⟨answer, signals, took, child⟩ c grace late := by
  cases h with
  | failed fault => exact absurd (fault.symm.trans sound) (by simp)
  | seen _ exited =>
    have yields : c.Yields 0 late := .inl (Child.hasExited_pass.mp exited)
    exact {
      answer := rfl
      exited := exited
      reaped := rfl
      escalates := List.nil_prefix
      spares := fun _ => rfl
      kills := ⟨0, grace + late, by omega, by omega, by omega,
        by simpa using yields.mono (Nat.le_add_left late grace)⟩
      prompt := ⟨0, by omega, fun time _ => Nat.le_add_left late time⟩
      inTime := Nat.le_add_left late grace }
  | heeded begun clock exited =>
    have yields := Child.hasExited_askedAt.mp exited
    have early := begun.early
    exact {
      answer := rfl
      exited := exited
      reaped := rfl
      escalates := by simp
      spares := fun gone => absurd gone (Bool.eq_false_iff.mp begun.alive)
      kills := ⟨_, grace + late, early, by omega, by omega, by simpa using yields.mono clock⟩
      prompt := ⟨_, early, begun.prompt⟩
      inTime := clock }
  | killed begun clock outlives =>
    obtain ⟨last, patient, early, alive⟩ := outlives
    exact {
      answer := rfl
      exited := rfl
      reaped := rfl
      escalates := List.prefix_rfl
      spares := fun gone => absurd gone (Bool.eq_false_iff.mp begun.alive)
      kills := ⟨_, last, begun.early, patient, early, by simpa using alive⟩
      prompt := ⟨_, begun.early, begun.prompt⟩
      inTime := Nat.le_of_eq clock }

/-- An ending that is never late is the one that `Child.terminate` gives. -/
theorem Course.eq_terminate (h : Course c grace ⟨.finished answer, child, signals, took, 0⟩) :
    ⟨answer, signals, took, child⟩ = c.terminate grace := by
  cases h with
  | failed fault => simp [Child.terminate, fault]
  | seen sound exited =>
    rw [Child.pass_zero] at exited ⊢
    simp [Child.terminate, sound, exited]
  | @heeded asked since _ begun clock exited =>
    obtain rfl : asked = 0 := Nat.le_zero.mp begun.early
    rw [Nat.zero_add] at clock ⊢
    rw [Child.askedAt, Child.pass_zero] at exited ⊢
    obtain ⟨ms, exits, passed⟩ := Child.hasExited_pass.mp exited
    have prompt := begun.prompt ms (Child.yields_zero_iff.mpr ⟨ms, exits, Nat.le_refl ms⟩)
    obtain rfl : ms = since := by omega
    exact (Child.terminate_of_yields begun.sound begun.alive exits clock).symm
  | @killed asked since _ begun clock outlives =>
    obtain rfl : asked = 0 := Nat.le_zero.mp begun.early
    obtain rfl : since = grace := by omega
    obtain ⟨last, patient, early, alive⟩ := outlives
    obtain rfl : last = since := by omega
    rw [Nat.zero_add, Child.askedAt, Child.pass_zero]
    exact (Child.terminate_of_outlives begun.sound begun.alive alive).symm

end Ending

namespace Child

variable {c : Child} {grace late time : Nat} {t : Termination}

theorem EndsAs.isMeasured (h : c.EndsAs grace late t) (sound : c.waitFault = none) :
    t.IsMeasured c grace late :=
  (Ending.course h).isMeasured sound

theorem endsAs_zero_iff : c.EndsAs grace 0 t ↔ t = c.terminate grace := by
  have onTime {t : Termination} (h : c.EndsAs grace 0 t) : t = c.terminate grace :=
    (Ending.course h).eq_terminate
  refine ⟨onTime, ?_⟩
  rintro rfl
  -- Some ending is never late, and there is only one.
  have begun : Ending.Course c grace (.ofChild c) := Ending.course .refl
  obtain ⟨t, ends⟩ := begun.finishes
  exact onTime ends ▸ ends

theorem terminate_isMeasured (sound : c.waitFault = none) (grace : Nat) :
    (c.terminate grace).IsMeasured c grace 0 :=
  (endsAs_zero_iff.mpr rfl).isMeasured sound

namespace Termination.IsMeasured

theorem count_term_le (h : t.IsMeasured c grace late) : t.signals.count .term ≤ 1 :=
  h.escalates.sublist.count_le .term

theorem kill_mem_iff (h : t.IsMeasured c grace 0) :
    .kill ∈ t.signals ↔ ¬ c.Yields 0 grace := by
  obtain ⟨asked, last, early, patient, soon, kills⟩ := h.kills
  obtain rfl : asked = 0 := Nat.le_zero.mp early
  obtain rfl : last = grace := by omega
  exact kills

theorem took_le (h : t.IsMeasured c grace 0) (yields : c.Yields 0 time) : t.took ≤ time := by
  obtain ⟨asked, early, prompt⟩ := h.prompt
  obtain rfl : asked = 0 := Nat.le_zero.mp early
  exact prompt time yields

end Termination.IsMeasured

end Child

namespace Emulator

/-- A stop that finds the child sound answers, leaves the guest closed, and gives how it has ended
the child. -/
theorem stop_eq {g : Emulator} (sound : ∀ c ∈ g.child, c.waitFault = none) :
    g.stop = (.ok (), g.child.map (·.terminate g.config.stopGraceMs.toNat),
      { g with child := none, reader := none }) := by
  cases child : g.child with
  | none => simp [stop, child]
  | some c =>
    have answer := (Child.terminate_isMeasured (sound c child) g.config.stopGraceMs.toNat).answer
    simp [stop, child, answer, Except.mapError]

/-- A stop always answers, and leaves the guest closed; a guest without a child has nothing ended.
The child that was ended is gone and reaped. It was asked once at most, and not if it had exited
before; it was killed exactly if it did not exit, by itself or because it was asked, while the grace
period lasted; and the stop lasted no longer than the child or the grace period. Where the steps of
the stop come late, so that the child may exit between any two of them, the stop still comes to its
end, and is late by no more than its steps. -/
theorem stop_ends_child (g : Emulator) (sound : ∀ c ∈ g.child, c.waitFault = none) :
    ∃ ended, g.stop = (.ok (), ended, { g with child := none, reader := none }) ∧
      (g.child = none → ended = none) ∧
      ∀ c ∈ g.child, ∃ t, ended = some t ∧
        let grace := g.config.stopGraceMs.toNat
        (t.answer = .ok () ∧ t.child.hasExited ∧ t.child.reaped) ∧
        (t.signals.count .term ≤ 1 ∧ (c.hasExited → .term ∉ t.signals)) ∧
        (.kill ∈ t.signals ↔ ¬ c.Yields 0 grace) ∧
        (t.took ≤ grace ∧ ∀ time, c.Yields 0 time → t.took ≤ time) ∧
        (∀ t', c.EndsAs grace 0 t' ↔ t' = t) ∧
        (∀ late t', c.EndsAs grace late t' → t'.IsMeasured c grace late) ∧
        ∀ e, ReflTransGen (Ending.Step grace) (.ofChild c) e →
          ∃ t', ReflTransGen (Ending.Step grace) e (.ofTermination t' e.late) := by
  refine ⟨_, stop_eq sound, fun gone => by rw [gone]; rfl, fun c running => ?_⟩
  refine ⟨c.terminate g.config.stopGraceMs.toNat, by rw [running]; rfl, ?_⟩
  intro grace
  have measured := Child.terminate_isMeasured (sound c running) grace
  have spared (gone : c.hasExited) : .term ∉ (c.terminate grace).signals := by
    simp [measured.spares gone]
  exact ⟨⟨measured.answer, measured.exited, measured.reaped⟩, ⟨measured.count_term_le, spared⟩,
    measured.kill_mem_iff, ⟨measured.inTime, fun _ => measured.took_le⟩,
    fun _ => Child.endsAs_zero_iff, fun _ _ ends => ends.isMeasured (sound c running),
    fun _ reached => (Ending.course reached).finishes⟩

/-- A child that was deaf before it was asked is killed. -/
theorem stop_ends_child_deaf :
    let deaf : Child := ⟨none, 0, some 0, none, false⟩
    let g : Emulator := ⟨{ stopGraceMs := 200 }, some deaf, none⟩
    (∀ c ∈ g.child, c.waitFault = none) ∧ g.stop.1 = .ok () ∧
      ∃ t, g.stop.2.1 = some t ∧ .kill ∈ t.signals ∧ t.child.reaped ∧ t.took ≤ 200 := by
  intro deaf g
  have sound : ∀ c ∈ g.child, c.waitFault = none := by decide
  obtain ⟨ended, stopped, -, ends⟩ := stop_ends_child g sound
  obtain ⟨t, rfl, ⟨-, -, reaped⟩, -, kills, ⟨took, -⟩, -⟩ := ends deaf rfl
  refine ⟨sound, congrArg Prod.fst stopped, t, congrArg (·.2.1) stopped, ?_, reaped, took⟩
  exact kills.mpr (by decide)

end Emulator

end GuestWatch
