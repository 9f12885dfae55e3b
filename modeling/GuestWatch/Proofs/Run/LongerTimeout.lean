import GuestWatch.Proofs.Backend.Runs
import GuestWatch.Proofs.Run.Playing

/-! # Longer timeouts

A longer timeout lets a read wait longer only where the old deadline would cut the wait short. A
read that is answered within the shorter wait is answered alike within the longer one; a read that
is not brings the run to the old deadline, with nothing more heard. So a run that does not time out
is the same run under every longer timeout, and one that does has heard the first lines of the
longer run.
-/
namespace GuestWatch

variable {σ : Type}

/-! ## Reads that may wait longer -/

/-- Reads to which a longer wait makes a difference only where the shorter one is in vain. They then
take that long at least. -/
def Patient (read : σ → Nat → Reading × Nat × σ) : Prop :=
  ∀ (s : σ) {wait longer : Nat}, wait ≤ longer → read s longer = read s wait ∨
    (∃ s', read s wait = (.ok none, wait, s')) ∧ wait ≤ (read s longer).2.1

theorem Script.read_patient : Patient Script.read := by
  intro s wait longer le
  cases s with
  | nil => exact .inr ⟨⟨_, rfl⟩, le⟩
  | cons step rest =>
    cases step with
    | line | silence | late | failure => exact .inl rfl
    | after ms text =>
      by_cases soon : ms ≤ wait
      · left
        rw [read, read, if_pos soon, if_pos (soon.trans le)]
      · right
        rw [read, if_neg soon]
        refine ⟨⟨_, rfl⟩, ?_⟩
        rw [read]
        split
        · exact Nat.le_of_not_le soon
        · exact le

namespace LineReader

variable {budget longer : Nat}

theorem le_readOn_took (pending : List UInt8) (got : Bool) (took budget : Nat) (s : Stream) :
    took ≤ (readOn pending got took budget s).2.1 := by
  fun_induction readOn pending got took budget s <;> (simp_all; try omega)

/-- Event after event, the longer budget goes as far as the shorter one and then on. -/
theorem readOn_patient (pending : List UInt8) (got : Bool) (took : Nat) (s : Stream)
    (le : budget ≤ longer) :
    readOn pending got took longer s = readOn pending got took budget s ∨
      (∃ r, readOn pending got took budget s = (.ok none, took + budget, r)) ∧
        took + budget ≤ (readOn pending got took longer s).2.1 := by
  induction s generalizing pending got took budget longer with
  | nil => exact .inl rfl
  | cons e s ih =>
    cases e with
    | failure | ending => exact .inl rfl
    | hang => exact .inr ⟨⟨_, rfl⟩, Nat.add_le_add_left le took⟩
    | bytes data =>
      by_cases hd : lineFeed ∈ data
      · obtain ⟨front, back, rfl, hf⟩ := List.eq_append_cons_of_mem hd
        exact .inl ((readOn_line hf).trans (readOn_line hf).symm)
      · rw [readOn_open hd, readOn_open hd]
        exact ih _ _ took le
    | delay ms =>
      by_cases soon : ms ≤ budget
      · have rest := ih pending got (took + ms) (Nat.sub_le_sub_right le ms)
        rw [Nat.add_assoc, Nat.add_sub_cancel' soon] at rest
        rwa [readOn, readOn, if_pos soon, if_pos (soon.trans le)]
      · right
        rw [readOn, if_neg soon]
        refine ⟨⟨_, rfl⟩, ?_⟩
        rw [readOn]
        split
        · have := le_readOn_took pending got (took + ms) (longer - ms) s
          omega
        · exact Nat.add_le_add_left le took

theorem nextLine_patient : Patient nextLine := by
  intro r wait longer le
  cases closed : r.closed with
  | true => exact .inl ((nextLine_closed closed longer).trans (nextLine_closed closed wait).symm)
  | false =>
    have rest := readOn_patient r.pending false 0 r.source le
    rw [Nat.zero_add] at rest
    simpa only [nextLine, closed, Bool.false_eq_true, if_false] using rest

end LineReader

theorem Patient.operations {read : σ → Nat → Reading × Nat × σ} (patient : Patient read) :
    Patient (Playback.operations read).read := by
  intro s wait longer le
  obtain same | ⟨⟨s', vain⟩, long⟩ := patient s.source le
  · exact .inl (by simp only [Playback.operations, same])
  · exact .inr ⟨⟨{ s with source := s' }, by simp only [Playback.operations, vain]⟩, long⟩

theorem Backend.read_patient : Patient Backend.read := by
  intro b wait longer le
  cases hr : b.reader? with
  | none => exact .inl ((read_closed hr longer).trans (read_closed hr wait).symm)
  | some r =>
    obtain same | ⟨⟨r', vain⟩, long⟩ := r.nextLine_patient le
    · cases b with
      | emulator g =>
        have reader : g.reader = some r := hr
        exact .inl (by simp only [read, Emulator.read, reader, same])
      | serialLine g =>
        have reader : g.reader = some r := hr
        exact .inl (by simp only [read, SerialLine.read, reader, same])
    · obtain ⟨answered, taken, -⟩ := read_opened hr wait
      rw [vain] at answered taken
      refine .inr ⟨⟨_, Prod.ext answered (Prod.ext taken rfl)⟩, ?_⟩
      rw [(read_opened hr longer).2.1]
      exact long

namespace Run

variable {ops : Operations σ} {p : Plan} {ms : Nat} {w w' v u u' : Watch σ} {e e' : Ending}
  {fuel fuel' : Nat}

/-! ## The same turn under a longer timeout -/

/-- The same plan with another timeout. -/
def Plan.withTimeout (p : Plan) (ms : Nat) : Plan := { p with timeoutMs := ms }

theorem Plan.waitAt_le_waitAt (longer : p.timeoutMs ≤ ms) (now : Nat) :
    p.waitAt now ≤ (p.withTimeout ms).waitAt now := by
  simp only [waitAt, withTimeout]
  omega

/-- A wait that the deadline does not cut short is as long with a later deadline. -/
theorem Plan.waitAt_withTimeout {now : Nat} (longer : p.timeoutMs ≤ ms)
    (whole : now + p.waitAt now < p.timeoutMs) :
    (p.withTimeout ms).waitAt now = p.waitAt now := by
  simp only [waitAt, withTimeout] at *
  omega

/-- Watches that differ in what they have called at most. -/
structure Watch.Alike (w w' : Watch σ) : Prop where
  now : w'.now = w.now
  guest : w'.guest = w.guest
  output : w'.output = w.output

theorem Watch.Alike.refl (w : Watch σ) : w.Alike w := ⟨rfl, rfl, rfl⟩

theorem Watch.Alike.finished (alike : w.Alike w') (guest : String) (e : Ending) :
    finished guest w' e = finished guest w e := by
  simp only [Run.finished, alike.now, alike.output]

/-- An answer before the old deadline is the answer under the longer timeout; if nothing has been
heard by then, the old deadline has come. -/
theorem Watch.Answered.prolonged (patient : Patient ops.read) (longer : p.timeoutMs ≤ ms)
    (alike : w.Alike w') {answer : Reading} {took : Nat} {guest : σ}
    (h : w.Answered ops p answer took guest) :
    w'.Answered ops (p.withTimeout ms) answer took guest ∨
      answer = .ok none ∧ p.timeoutMs ≤ w.now + took := by
  have same (hr : ops.read w.guest ((p.withTimeout ms).waitAt w.now) = (answer, took, guest)) :
      w'.Answered ops (p.withTimeout ms) answer took guest := by
    refine ⟨?_, by rw [alike.guest, alike.now, hr], alike.now ▸ h.uncancelled⟩
    exact alike.now ▸ Nat.lt_of_lt_of_le h.early longer
  obtain hr | ⟨⟨s', vain⟩, -⟩ := patient w.guest (Plan.waitAt_le_waitAt longer w.now)
  · exact .inl (same (hr.trans h.read))
  · obtain ⟨rfl, rfl, -⟩ : Except.ok none = answer ∧ p.waitAt w.now = took ∧ s' = guest := by
      simpa only [Prod.mk.injEq] using vain.symm.trans h.read
    by_cases whole : w.now + p.waitAt w.now < p.timeoutMs
    · exact .inl (same (by rw [Plan.waitAt_withTimeout longer whole, h.read]))
    · exact .inr ⟨rfl, Nat.le_of_not_lt whole⟩

/-- A read that is given up is given up under the longer timeout. -/
theorem Turn.abandoned_prolonged (patient : Patient ops.read) (longer : p.timeoutMs ≤ ms)
    (alike : w.Alike w') {answer : Reading} {took : Nat} {guest : σ} (early : w.now < p.timeoutMs)
    (before : p.cancelledBy w.now = false)
    (read : ops.read w.guest (p.waitAt w.now) = (answer, took, guest))
    (come : p.cancelledBy (w.now + took) = true) :
    Turn ops (p.withTimeout ms) w' (w'.abandon (p.withTimeout ms)) (some .interrupted) := by
  rcases hr : ops.read w.guest ((p.withTimeout ms).waitAt w.now) with ⟨answer', took', guest'⟩
  have later : took ≤ took' := by
    obtain same | ⟨⟨s', vain⟩, long⟩ := patient w.guest (Plan.waitAt_le_waitAt longer w.now)
    · rw [hr, read] at same
      exact Nat.le_of_eq (Prod.mk.inj (Prod.mk.inj same).2).1.symm
    · rw [read] at vain
      rw [hr] at long
      obtain ⟨rfl, -⟩ := Prod.mk.inj (Prod.mk.inj vain).2
      exact long
  refine .abandoned answer' took' guest' ?_ (alike.now ▸ before) ?_ ?_
  · exact alike.now ▸ Nat.lt_of_lt_of_le early longer
  · rw [alike.guest, alike.now, hr]
  · rw [alike.now]
    exact Plan.cancelledBy_mono (Nat.add_le_add_left later w.now) come

/-- Before the old deadline a turn under the longer timeout is the same turn, or the old deadline
comes without a line. -/
theorem Turn.prolonged (patient : Patient ops.read) (longer : p.timeoutMs ≤ ms)
    (alike : w.Alike w') (early : w.now < p.timeoutMs) {ending : Option Ending}
    (ht : Turn ops p w v ending) :
    (∃ v', Turn ops (p.withTimeout ms) w' v' ending ∧ v.Alike v') ∨
      ending = none ∧ v.output = w.output ∧ p.timeoutMs ≤ v.now := by
  cases ht with
  | expired late => exact absurd late (Nat.not_le.mpr early)
  | cancelled _ come =>
    refine .inl ⟨w', .cancelled ?_ (alike.now ▸ come), alike⟩
    exact alike.now ▸ Nat.lt_of_lt_of_le early longer
  | abandoned answer took guest _ before read come =>
    refine .inl ⟨_, Turn.abandoned_prolonged patient longer alike early before read come, ?_⟩
    exact ⟨congrArg (p.cancelAt.getD ·) alike.now, alike.guest, alike.output⟩
  | failed f took guest h =>
    have h' := (h.prolonged patient longer alike).resolve_right (by simp)
    exact .inl ⟨_, .failed f took guest h', congrArg (· + took) alike.now, rfl, alike.output⟩
  | silent took guest h =>
    obtain h' | ⟨-, reached⟩ := h.prolonged patient longer alike
    · exact .inl ⟨_, .silent took guest h', congrArg (· + took) alike.now, rfl, alike.output⟩
    · exact .inr ⟨rfl, rfl, reached⟩
  | decided line verdict took guest h hv =>
    have h' := (h.prolonged patient longer alike).resolve_right (by simp)
    exact .inl ⟨_, .decided line verdict took guest h' hv, congrArg (· + took) alike.now, rfl,
      congrArg (line :: ·) alike.output⟩
  | heard line took guest h hv =>
    have h' := (h.prolonged patient longer alike).resolve_right (by simp)
    exact .inl ⟨_, .heard line took guest h' hv, congrArg (· + took) alike.now, rfl,
      congrArg (line :: ·) alike.output⟩

/-! ## The same watch under a longer timeout -/

theorem watch_expired (late : p.timeoutMs ≤ w.now) (h : watch ops p w fuel = some (u, e)) :
    u = w ∧ e = .fault (.timedOut p.timeoutMs) := by
  cases fuel with
  | zero => simp [watch] at h
  | succ fuel =>
    simp only [watch, (Turn.expired late).eq, Option.some.injEq, Prod.mk.injEq] at h
    exact ⟨h.1.symm, h.2.symm⟩

/-- A watch under a longer timeout ends like the shorter one, unless that one is out of time, and
has then heard at least as much. -/
theorem watch_prolonged (patient : Patient ops.read) (longer : p.timeoutMs ≤ ms)
    (alike : w.Alike w') (h : watch ops p w fuel = some (u, e))
    (h' : watch ops (p.withTimeout ms) w' fuel' = some (u', e')) :
    (e' = e ∧ u.Alike u') ∨
      e = .fault (.timedOut p.timeoutMs) ∧ u.output <:+ u'.output := by
  induction fuel generalizing w w' fuel' with
  | zero => simp [watch] at h
  | succ fuel ih =>
    have later : w.output <:+ u'.output := alike.output ▸ watch_output h'
    by_cases early : w.now < p.timeoutMs
    -- The waits agree, and with them the turns, until one is cut short at the old deadline without
    -- a line. The shorter watch then only sees that its time is up, and the longer one goes on.
    · have ht := turn_spec ops p w
      rcases hv : turn ops p w with ⟨v, ending⟩
      rw [hv] at ht
      obtain ⟨v', ht', alike'⟩ | ⟨rfl, output, late⟩ := ht.prolonged patient longer alike early
      · cases fuel' with
        | zero => simp [watch] at h'
        | succ fuel' =>
          cases ending with
          | none =>
            simp only [watch, hv] at h
            simp only [watch, ht'.eq] at h'
            exact ih alike' h h'
          | some ending =>
            simp only [watch, hv, Option.some.injEq, Prod.mk.injEq] at h
            simp only [watch, ht'.eq, Option.some.injEq, Prod.mk.injEq] at h'
            obtain ⟨rfl, rfl⟩ := h
            obtain ⟨rfl, rfl⟩ := h'
            exact .inl ⟨rfl, alike'⟩
      · simp only [watch, hv] at h
        obtain ⟨rfl, rfl⟩ := watch_expired late h
        exact .inr ⟨rfl, output ▸ later⟩
    · obtain ⟨rfl, rfl⟩ := watch_expired (Nat.le_of_not_lt early) h
      exact .inr ⟨rfl, later⟩

/-! ## Runs -/

variable {guest : String} {s : σ} {o o' : Outcome σ}

/-- What more time can change in the outcome of a run: nothing in the report of a run that did not
time out, and further lines after those that a run has heard that did. -/
def Outcome.Prolongs (o' o : Outcome σ) : Prop :=
  ∃ r r', o.report = some r ∧ o'.report = some r' ∧
    (r.status ≠ .timedOut → r' = r) ∧ (r.status = .timedOut → r.output <+: r'.output)

theorem Outcome.prolongs_of_report {r : Report} (h : o.report = some r)
    (h' : o'.report = some r) : o'.Prolongs o :=
  ⟨r, r, h, h', fun _ => rfl, fun _ => List.prefix_rfl⟩

theorem run?_prolonged (patient : Patient ops.read) (longer : p.timeoutMs ≤ ms)
    (fits : (p.withTimeout ms).deadlineFits = true) (h : run? ops p guest s fuel = some o)
    (h' : run? ops (p.withTimeout ms) guest s fuel' = some o') : o'.Prolongs o := by
  rcases hs : ops.start s with ⟨f | _, s'⟩
  · rw [run?_of_start_error ops hs] at h h'
    cases h
    cases h'
    exact Outcome.prolongs_of_report rfl rfl
  · have sooner : p.deadlineFits = true :=
      decide_eq_true ((Nat.add_le_add_left longer _).trans_lt (of_decide_eq_true fits))
    rw [run?_of_started ops hs sooner] at h
    rw [run?_of_started ops hs fits] at h'
    obtain ⟨⟨u, e⟩, hw, rfl⟩ := Option.map_eq_some_iff.mp h
    obtain ⟨⟨u', e'⟩, hw', rfl⟩ := Option.map_eq_some_iff.mp h'
    obtain ⟨rfl, alike⟩ | ⟨rfl, heard⟩ := watch_prolonged patient longer (.refl _) hw hw'
    · exact Outcome.prolongs_of_report rfl (congrArg some (alike.finished guest e'))
    · exact ⟨_, _, rfl, rfl, (absurd rfl ·), fun _ => List.reverse_prefix.mpr heard⟩

variable {c : Config} {secs : UInt64}

theorem Plan.timeoutMs_le (longer : c.timeoutSecs ≤ secs) :
    c.timeoutMs ≤ { c with timeoutSecs := secs }.timeoutMs :=
  Nat.mul_le_mul_right 1000 (UInt64.le_iff_toNat_le.mp longer)

/-- Two runs under accepted configurations that differ only in a longer timeout, whose deadline the
clock can tell. Both end, over every script, every reader of a stream and every guest in its
surroundings, with any cancellation. A run that does not time out leaves the same report in the
longer time, and one that does has heard the first of the lines that are heard then. -/
theorem longer_timeout_prolongs (h : c.validate = .ok ()) (longer : c.timeoutSecs ≤ secs)
    {clock : Nat} (fits : clock + { c with timeoutSecs := secs }.timeoutMs < clockEnd)
    (echo : Bool) :
    ∃ m, Markers.ofConfig c.markers = .ok m ∧
      (∀ (cancelAt : Option Nat) (guest : String) (s : Playback Script), ∃ o o',
        Script.run? (.ofConfig c m cancelAt clock echo) guest s = some o ∧
        Script.run? (.ofConfig { c with timeoutSecs := secs } m cancelAt clock echo) guest s =
          some o' ∧ o'.Prolongs o) ∧
      (∀ (cancelAt : Option Nat) (guest : String) (s : Playback LineReader), ∃ o o',
        LineReader.run? (.ofConfig c m cancelAt clock echo) guest s = some o ∧
        LineReader.run? (.ofConfig { c with timeoutSecs := secs } m cancelAt clock echo) guest s =
          some o' ∧ o'.Prolongs o) ∧
      ∀ (env : Environment) (i : Interruption) (g : Guest), ∃ o o',
        g.run? env c m i clock echo = some o ∧
        g.run? env { c with timeoutSecs := secs } m i clock echo = some o' ∧ o'.Prolongs o := by
  have accepted := Config.validate_eq_ok.mp h
  have hl := accepted.lineTimeoutMs_pos
  have later := Plan.timeoutMs_le longer
  have fits' (m : Markers) (cancelAt : Option Nat) :=
    (Plan.deadlineFits_ofConfig { c with timeoutSecs := secs } m cancelAt clock echo).mpr fits
  obtain ⟨m, hm⟩ := accepted.markers_ofConfig
  refine ⟨m, hm, fun cancelAt guest s => ?_, fun cancelAt guest s => ?_, fun env i g => ?_⟩
  · obtain ⟨o, ho⟩ := Script.run?_ends (p := .ofConfig c m cancelAt clock echo) hl guest s
    obtain ⟨o', ho'⟩ := Script.run?_ends
      (p := .ofConfig { c with timeoutSecs := secs } m cancelAt clock echo) hl guest s
    exact ⟨o, o', ho, ho', run?_prolonged (p := .ofConfig c m cancelAt clock echo)
      Script.read_patient.operations later (fits' m cancelAt) ho ho'⟩
  · obtain ⟨o, ho⟩ := LineReader.run?_ends (p := .ofConfig c m cancelAt clock echo) hl guest s
    obtain ⟨o', ho'⟩ := LineReader.run?_ends
      (p := .ofConfig { c with timeoutSecs := secs } m cancelAt clock echo) hl guest s
    exact ⟨o, o', ho, ho', run?_prolonged (p := .ofConfig c m cancelAt clock echo)
      LineReader.nextLine_patient.operations later (fits' m cancelAt) ho ho'⟩
  · obtain ⟨o, ho⟩ := Backend.run?_ends (p := g.plan env c m i clock echo) hl env g.name
      (.ofGuest c g)
    obtain ⟨o', ho'⟩ := Backend.run?_ends
      (p := g.plan env { c with timeoutSecs := secs } m i clock echo) hl env g.name (.ofGuest c g)
    have patient : Patient (Backend.operations env).read := Backend.read_patient
    exact ⟨o, o', ho, ho',
      run?_prolonged (p := g.plan env c m i clock echo) patient later (fits' m _) ho ho'⟩

/-- A pass marker that comes after the old deadline, in a read that was cut short there. -/
theorem longer_timeout_prolongs_cut :
    ∃ (c : Config) (m : Markers) (o o' : Outcome (Playback Script)) (r r' : Report),
      c.validate = .ok () ∧ c.timeoutSecs = 1 ∧
      Script.run? (.ofConfig c m none 0 false) "qemu"
        ⟨[.line "boot", .late 700 none, .after 900 "PASS"], none, none⟩ = some o ∧
      Script.run? (.ofConfig { c with timeoutSecs := 2 } m none 0 false) "qemu"
        ⟨[.line "boot", .late 700 none, .after 900 "PASS"], none, none⟩ = some o' ∧
      o.report = some r ∧ o'.report = some r' ∧ r.status = .timedOut ∧ r'.status = .passed ∧
      r.output = ["boot"] ∧ r.output <+: r'.output := by
  let c : Config := { timeoutSecs := 1 }
  have valid : c.validate = .ok () := rfl
  have deadline : c.timeoutMs = 1000 := by decide
  have deadline' : { c with timeoutSecs := 2 }.timeoutMs = 2000 := by decide
  have plan : Plan.ofConfig c .default none 0 false = ⟨1000, 1000, .default, none, 0, false⟩ := by
    rw [Plan.ofConfig, deadline]
    rfl
  have plan' : Plan.ofConfig { c with timeoutSecs := 2 } .default none 0 false =
      ⟨2000, 1000, .default, none, 0, false⟩ := by
    rw [Plan.ofConfig, deadline']
    rfl
  have fits : 0 + { c with timeoutSecs := 2 }.timeoutMs < clockEnd := by decide
  obtain ⟨m, hm, scripts, -⟩ := longer_timeout_prolongs valid (by decide : c.timeoutSecs ≤ 2) fits
    false
  obtain rfl : m = .default := by cases hm; rfl
  obtain ⟨o, o', ho, ho', r, r', hr, hr', -, heard⟩ := scripts none "qemu"
    ⟨[.line "boot", .late 700 none, .after 900 "PASS"], none, none⟩
  have timedOut : r.status = .timedOut ∧ r.output = ["boot"] := by
    rw [plan] at ho
    cases ho
    cases hr
    exact ⟨rfl, rfl⟩
  have passed : r'.status = .passed := by
    rw [plan'] at ho'
    cases ho'
    cases hr'
    rfl
  exact ⟨c, .default, o, o', r, r', valid, rfl, ho, ho', hr, hr', timedOut.1, passed, timedOut.2,
    heard timedOut.1⟩

end Run

end GuestWatch
