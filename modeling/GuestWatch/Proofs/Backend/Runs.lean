import GuestWatch.Interruption
import GuestWatch.Proofs.Backend.Lifecycle
import GuestWatch.Proofs.LineReader.Unbroken
import GuestWatch.Proofs.Run.Course
import GuestWatch.Proofs.Run.Echo
import GuestWatch.Proofs.Run.Termination

/-! # Runs over backends

A backend can answer as often as its reader can, so runs over it come to an end. Their exit codes
are those of the four outcomes, and every line of their output is unbroken.
-/
namespace GuestWatch

theorem Report.exitCode_le (r : Report) : r.exitCode ≤ 3 := by
  rw [exitCode]
  cases r.status <;> decide

namespace Run

variable {σ : Type} {ops : Operations σ} {p : Plan} {w w' : Watch σ} {I : σ → Prop}
  {P : String → Prop}

/-- What holds of a guest is kept by its reads, and what its reads give is of a kind. -/
def Keeps (ops : Operations σ) (I : σ → Prop) (P : String → Prop) : Prop :=
  ∀ {s s' : σ} {wait took : Nat} {answer : Reading}, I s →
    ops.read s wait = (answer, took, s') → I s' ∧ ∀ line, answer = .ok (some line) → P line

/-- A watch with a guest of which something holds and with lines of a kind. -/
structure Watch.Holds (I : σ → Prop) (P : String → Prop) (w : Watch σ) : Prop where
  guest : I w.guest
  output : ∀ line ∈ w.output, P line

theorem Keeps.turn {e : Option Ending} (keeps : Keeps ops I P) (h : w.Holds I P)
    (ht : Turn ops p w w' e) : w'.Holds I P := by
  cases ht with
  | expired late => exact h
  | cancelled early come => exact h
  | abandoned answer took g early before read come => exact ⟨h.guest, h.output⟩
  | failed f took g answered => exact ⟨(keeps h.guest answered.read).1, h.output⟩
  | silent took g answered => exact ⟨(keeps h.guest answered.read).1, h.output⟩
  | decided line v took g answered verdict =>
    obtain ⟨guest, kind⟩ := keeps h.guest answered.read
    exact ⟨guest, List.forall_mem_cons.mpr ⟨kind line rfl, h.output⟩⟩
  | heard line took g answered verdict =>
    obtain ⟨guest, kind⟩ := keeps h.guest answered.read
    exact ⟨guest, List.forall_mem_cons.mpr ⟨kind line rfl, h.output⟩⟩

/-- A report has no lines but of the kind that the guest's reads give. -/
theorem Keeps.output {guest : String} {s : σ} {fuel : Nat} {o : Outcome σ} {r : Report}
    (keeps : Keeps ops I P) (begun : (ops.start s).1 = .ok () → I (ops.start s).2)
    (h : run? ops p guest s fuel = some o) (hr : o.report = some r) :
    ∀ line ∈ r.output, P line := by
  obtain ⟨f, s', -, rfl⟩ | ⟨s', -, -, rfl⟩ | ⟨s', w, e, hs, -, hw, rfl⟩ := run?_cases h
  · cases hr
    exact fun line hl => absurd hl List.not_mem_nil
  · cases hr
  · rw [hs] at begun
    have fresh : (Watch.fresh s').Holds I P :=
      ⟨begun rfl, fun line hl => absurd hl List.not_mem_nil⟩
    have done : w.Holds I P :=
      watch_induction (Q := fun w _ => w.Holds I P) (keeps.turn ·) (keeps.turn ·) fresh hw
    cases hr
    exact fun line hl => done.output line (List.mem_reverse.mp hl)

end Run

namespace Backend

variable {env : Environment} {p : Run.Plan} {guest : String} {b : Backend}

/-- How often a backend can still answer. -/
def rank (b : Backend) : Nat := (b.reader?.map LineReader.rank).getD 0

theorem operations_drains (env : Environment) : (operations env).Drains rank := by
  intro b b' wait took answer h
  have hb : b.read wait = (.ok answer, took, b') := h
  cases hr : b.reader? with
  | none =>
    rw [read_closed hr] at hb
    cases hb
  | some r =>
    obtain ⟨answered, taken, reader⟩ := read_opened hr wait
    rw [hb] at answered taken reader
    have next : r.nextLine wait = (.ok answer, took, (r.nextLine wait).2.2) :=
      Prod.ext answered.symm (Prod.ext taken.symm rfl)
    simpa [rank, hr, reader] using LineReader.nextLine_uses next

theorem rank_start_le (env : Environment) (b : Backend) :
    (b.start env).2.rank ≤ b.answers env := by
  rw [rank, answers]
  cases (b.start env).2.reader? with
  | none => exact Nat.le_refl 0
  | some r => exact r.rank_le_answers

theorem run?_ends (hl : 0 < p.lineTimeoutMs) (env : Environment) (guest : String) (b : Backend) :
    ∃ o, b.run? env p guest = some o :=
  Run.run?_ends (operations_drains env) hl guest (rank_start_le env b)

/-- What the reader of a backend keeps has no line feed. -/
def Unfinished (b : Backend) : Prop := ∀ r, b.reader? = some r → lineFeed ∉ r.pending

theorem operations_keeps (env : Environment) :
    Run.Keeps (operations env) Unfinished ('\n' ∉ ·.toList) := by
  intro b b' wait took answer unfinished h
  have hb : b.read wait = (answer, took, b') := h
  cases hr : b.reader? with
  | none =>
    rw [read_closed hr] at hb
    cases hb
    exact ⟨unfinished, by simp⟩
  | some r =>
    obtain ⟨answered, -, reader⟩ := read_opened hr wait
    rw [hb] at answered reader
    obtain ⟨line, pending⟩ :=
      LineReader.nextLine_unbroken (unfinished r hr) (Prod.ext answered.symm rfl)
    refine ⟨fun r' hr' => ?_, line⟩
    obtain rfl := Option.some.inj (reader.symm.trans hr')
    exact pending

end Backend

namespace Guest

variable {c : Config} {env : Environment} {m : Markers} {i : Interruption} {clock : Nat}
  {echo : Bool} {g : Guest} {o : Run.Outcome Backend} {r : Report}

theorem run?_ends (h : c.Accepted) (env : Environment) (m : Markers) (i : Interruption)
    (clock : Nat) (echo : Bool) (g : Guest) : ∃ o, g.run? env c m i clock echo = some o :=
  Backend.run?_ends h.lineTimeoutMs_pos env g.name (.ofGuest c g)

/-- A guest that has just been started has an unfinished line without octets. -/
theorem unfinished_of_started (c : Config) (g : Guest) (env : Environment)
    (started : ((Backend.operations env).start (.ofGuest c g)).1 = .ok ()) :
    ((Backend.operations env).start (.ofGuest c g)).2.Unfinished := by
  intro r hr
  obtain ⟨f, -, failed⟩ | ⟨s, -, -, reader, -⟩ := (Backend.Sound.ofGuest c g).start_cases env
  · have : (Backend.operations env).start (.ofGuest c g) = (.error f, .ofGuest c g) := failed
    rw [this] at started
    cases started
  · obtain rfl := Option.some.inj (reader.symm.trans hr)
    exact List.not_mem_nil

/-- Every line of a run over a guest is unbroken. -/
theorem output_unbroken (h : g.run? env c m i clock echo = some o) (hr : o.report = some r) :
    ∀ line ∈ r.output, '\n' ∉ line.toList :=
  Run.Keeps.output (Backend.operations_keeps env) (unfinished_of_started c g env) h hr

/-- The plan of a run over a guest. -/
def plan (env : Environment) (c : Config) (m : Markers) (i : Interruption) (clock : Nat)
    (echo : Bool) (g : Guest) : Run.Plan :=
  .ofConfig c m (i.time? (((Backend.ofGuest c g).console? env).getD [])) clock echo

/-- The reads that a guest has answered in a run over it, in order. -/
def Answers (env : Environment) (c : Config) (m : Markers) (i : Interruption) (clock : Nat)
    (echo : Bool) (g : Guest) (o : Run.Outcome Backend) (xs : List Exchange) : Prop :=
  ∃ ended e, Run.Course (Backend.operations env) (g.plan env c m i clock echo) g.name
    (.ofGuest c g) ((g.plan env c m i clock echo).turns ((Backend.ofGuest c g).answers env))
    o xs ended e

/-- The output of a run are the lines that the guest has given while the run lasted. -/
theorem output_answers (h : g.run? env c m i clock echo = some o) (hr : o.report = some r)
    (started : ((Backend.ofGuest c g).start env).1 = .ok ()) :
    ∃ xs, g.Answers env c m i clock echo o xs ∧ r.output = xs.filterMap Exchange.line? := by
  obtain ⟨w, e, complete, course, rfl, -⟩ := Run.run?_course h hr started
  refine ⟨_, ⟨_, e, course⟩, ?_⟩
  rw [List.filterMap_reverse, ← complete.output]
  rfl

/-- What has been shown in a run is what is shown of its output. -/
theorem shown_eq (h : g.run? env c m i clock echo = some o) (hr : o.report = some r) :
    o.shown = (g.plan env c m i clock echo).echoed r.output :=
  (Run.run?_shown h).1 r hr

theorem output_unstarted (h : g.run? env c m i clock echo = some o) (hr : o.report = some r)
    {f : Fault} (failed : ((Backend.ofGuest c g).start env).1 = .error f) : r.output = [] := by
  have hs : (Backend.operations env).start (.ofGuest c g) =
      (.error f, ((Backend.ofGuest c g).start env).2) := Prod.ext failed rfl
  have ran := h.symm.trans (Run.run?_of_start_error (Backend.operations env) hs)
  cases ran
  cases hr
  rfl

end Guest

end GuestWatch
