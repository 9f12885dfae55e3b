import GuestWatch.Proofs.Config.Accepted
import GuestWatch.Proofs.LineReader.Reading
import GuestWatch.Proofs.Run.Course
import GuestWatch.Proofs.Run.Protocol

/-! # The deadline

Every read is asked for before the deadline and told to wait until then at the latest, but for some
time. A run over a guest that obeys its waits is therefore over at the deadline, and it times out
only there: exactly when nothing that it has heard ends it and no cancellation does.
-/
namespace GuestWatch

variable {σ : Type}

/-- A guest that answers in time and leaves it to the run to find that time is up. -/
def Operations.Punctual (ops : Operations σ) : Prop :=
  ∀ s wait, (ops.read s wait).2.1 ≤ wait ∧ ∀ ms, (ops.read s wait).1 ≠ .error (.timedOut ms)

theorem LineReader.punctual : (Playback.operations LineReader.nextLine).Punctual := by
  intro s wait
  rcases h : s.source.nextLine wait with ⟨answer, took, r⟩
  obtain ⟨time, faults⟩ := LineReader.nextLine_within h
  simp only [Playback.operations, h]
  refine ⟨time, fun ms timedOut => ?_⟩
  obtain closed | ⟨reason, failed⟩ := faults _ timedOut
  · cases closed
  · cases failed

namespace Run

variable {ops : Operations σ} {p : Plan} {w : Watch (σ × List Exchange)} {e : Ending}
  {xs : List Exchange} {x : Exchange} {begun cancel : Nat}

/-- When a read can be asked for, and how long it can be told to wait. -/
structure Plan.Admits (p : Plan) (begun wait : Nat) : Prop where
  early : begun < p.timeoutMs
  positive : 0 < wait
  wait_le : wait ≤ p.lineTimeoutMs
  within : begun + wait ≤ p.timeoutMs

theorem Plan.admits_waitAt (hl : 0 < p.lineTimeoutMs) (early : begun < p.timeoutMs) :
    p.Admits begun (p.waitAt begun) where
  early := early
  positive := by
    simp only [waitAt]
    omega
  wait_le := Nat.min_le_left _ _
  within := waitAt_le early

theorem Plan.Allows.admits (h : p.Allows ops x) (hl : 0 < p.lineTimeoutMs) :
    p.Admits x.begun x.wait := h.wait ▸ admits_waitAt hl h.early

theorem Plan.Allows.ended_le (h : p.Allows ops x) (punctual : ops.Punctual) :
    x.ended ≤ p.timeoutMs := by
  obtain ⟨s, s', read⟩ := h.read
  have took : x.took ≤ x.wait := by simpa [read] using (punctual s x.wait).1
  have within : x.begun + p.waitAt x.begun ≤ p.timeoutMs := waitAt_le h.early
  rw [h.wait] at took
  simp only [Exchange.ended]
  omega

/-- A guest that is punctual never says itself that time is up. -/
theorem Plan.Allows.status_of_fault (h : p.Allows ops x) (punctual : ops.Punctual) {f : Fault}
    (answer : x.answer = .error f) : f.status = .backendError := by
  obtain ⟨s, s', read⟩ := h.read
  cases f with
  | timedOut ms => exact absurd (by rw [read, answer]) ((punctual s x.wait).2 ms)
  | _ => rfl

theorem Plan.GivesUp.le (h : p.GivesUp ops begun cancel) (punctual : ops.Punctual) :
    cancel ≤ p.timeoutMs := by
  obtain ⟨s, answer, took, s', read, come⟩ := h.read
  have took_le : took ≤ p.waitAt begun := by simpa [read] using (punctual s (p.waitAt begun)).1
  have within : begun + p.waitAt begun ≤ p.timeoutMs := waitAt_le h.early
  omega

theorem clock_le (punctual : ops.Punctual) (allowed : ∀ x ∈ xs, p.Allows ops x) :
    Exchange.clock xs ≤ p.timeoutMs := by
  cases xs with
  | nil => exact Nat.zero_le _
  | cons x xs => exact (allowed x List.mem_cons_self).ended_le punctual

theorem Watch.Complete.now_le (complete : w.Complete ops p e) (punctual : ops.Punctual) :
    w.now ≤ p.timeoutMs := by
  obtain ⟨-, time⟩ | ⟨-, -, givenUp⟩ := complete.calls
  · rw [time]
    exact clock_le punctual complete.allowed
  · exact givenUp.le punctual

/-- A run over a punctual guest has waited for the deadline to the end, or was interrupted, or was
ended by the last thing it has heard. -/
theorem Closing.cases_of_punctual {now : Nat} (h : Closing p xs now e)
    (allowed : ∀ x ∈ xs, p.Allows ops x) (punctual : ops.Punctual) :
    (e = .fault (.timedOut p.timeoutMs) ∧ p.timeoutMs ≤ now ∧ ∀ x ∈ xs, x.Undecided p.markers) ∨
      e = .interrupted ∨
      e.status ≠ .timedOut ∧ ∃ x ∈ xs.head?, ¬ x.Undecided p.markers := by
  cases h with
  | expired undecided late => exact .inl ⟨rfl, late, undecided⟩
  | interrupted _ _ => exact .inr (.inl rfl)
  | failed _ answer =>
    have status := (allowed _ List.mem_cons_self).status_of_fault punctual answer
    refine .inr (.inr ⟨?_, _, rfl, Exchange.not_undecided_of_error answer⟩)
    simp [Ending.status, status]
  | @decided xs x line v _ answer verdict =>
    refine .inr (.inr ⟨?_, _, rfl, Exchange.not_undecided_of_verdict answer verdict⟩)
    cases v <;> simp [Ending.status]

/-- A run is interrupted exactly if a cancellation has come by its end. -/
theorem Closing.interrupted_iff {now : Nat} (h : Closing p xs now e)
    (allowed : ∀ x ∈ xs, p.Allows ops x) (positive : 0 < p.timeoutMs) :
    e = .interrupted ↔ p.cancelledBy now = true := by
  have uncancelled {x : Exchange} (hx : x ∈ xs) : ¬ p.cancelledBy x.ended = true := by
    simp [(allowed x hx).uncancelled]
  cases h with
  | expired undecided late =>
    refine ⟨nofun, fun come => ?_⟩
    cases xs with
    | nil => exact absurd late (Nat.not_le.mpr positive)
    | cons x xs => exact absurd come (uncancelled List.mem_cons_self)
  | interrupted _ set =>
    exact ⟨fun _ => Plan.cancelledBy_iff.mpr ⟨_, set, Nat.le_refl _⟩, fun _ => rfl⟩
  | failed _ _ => exact ⟨nofun, (absurd · (uncancelled List.mem_cons_self))⟩
  | decided _ _ _ => exact ⟨nofun, (absurd · (uncancelled List.mem_cons_self))⟩

theorem Watch.Complete.abandoned (complete : w.Complete ops p e) {wait : Nat}
    (h : .read wait true ∈ w.calls) :
    wait = p.waitAt (Exchange.clock w.guest.2) ∧ Exchange.clock w.guest.2 < p.timeoutMs := by
  have answered : .read wait true ∉ w.guest.2.map Exchange.call ++ [.start] := by
    simp [Exchange.call]
  obtain ⟨calls, -⟩ | ⟨calls, -, givenUp⟩ := complete.calls
  · exact absurd (calls ▸ h) answered
  · rw [calls, List.cons_append, List.mem_cons] at h
    obtain h := h.resolve_right answered
    exact ⟨by simpa using h, givenUp.early⟩

/-- A watch over a punctual guest is over at the deadline, and times out only there. -/
theorem Watch.Complete.timely (complete : w.Complete ops p e) (punctual : ops.Punctual) :
    w.now ≤ p.timeoutMs ∧
      (e.status = .timedOut ↔ (∀ x ∈ w.guest.2, x.Undecided p.markers) ∧ e ≠ .interrupted) ∧
      (e.status = .timedOut →
        w.now = p.timeoutMs ∧ e.message = some (Fault.timedOut p.timeoutMs).message) ∧
      (w.now < p.timeoutMs →
        e = .interrupted ∨ ∃ x ∈ w.guest.2.head?, ¬ x.Undecided p.markers) := by
  have le := complete.now_le punctual
  refine ⟨le, ?_⟩
  obtain ⟨rfl, late, undecided⟩ | rfl | ⟨status, x, last, decides⟩ :=
    complete.closing.cases_of_punctual complete.allowed punctual
  · exact ⟨⟨fun _ => ⟨undecided, by simp⟩, fun _ => rfl⟩,
      fun _ => ⟨Nat.le_antisymm le late, rfl⟩, fun soon => absurd late (Nat.not_le.mpr soon)⟩
  · exact ⟨⟨nofun, fun h => absurd rfl h.2⟩, nofun, fun _ => .inl rfl⟩
  · refine ⟨⟨(absurd · status), fun h => ?_⟩, (absurd · status), fun _ => .inr ⟨x, last, decides⟩⟩
    exact absurd (h.1 x (List.mem_of_head? last)) decides

variable {c : Config} {m : Markers} {cancelAt : Option Nat} {clock : Nat} {echo : Bool}
  {guest : String} {s : σ} {fuel : Nat} {o : Outcome σ} {r : Report}

/-- Under an accepted configuration every read of a started guest, the last one included that may
be given up, begins before the deadline and is told to wait for more than no time, for no longer
than the line timeout and not past the deadline. The run is interrupted exactly if a cancellation
has come by its end. If the guest is punctual, the run is over at the deadline. It times out, with
the seconds of the timeout in its message, exactly if no answer was a fault or a line that decides
and it was not interrupted, and then it ends at the very deadline; so a run that is over before has
been interrupted or has got such an answer last. -/
theorem deadline_kept (h : c.validate = .ok ())
    (ho : run? ops (.ofConfig c m cancelAt clock echo) guest s fuel = some o)
    (hr : o.report = some r) (started : (ops.start s).1 = .ok ()) :
    ∃ xs ended e, Course ops (.ofConfig c m cancelAt clock echo) guest s fuel o xs ended e ∧
      o.calls.filter Call.isAnswered = .start :: xs.map Exchange.call ++ [.stop] ∧
      (∀ x ∈ xs, (Plan.ofConfig c m cancelAt clock echo).Admits x.begun x.wait) ∧
      (∀ wait, .read wait true ∈ o.calls →
        (Plan.ofConfig c m cancelAt clock echo).Admits (Exchange.clock xs.reverse) wait) ∧
      (e = .interrupted ↔ ∃ cancel, cancelAt = some cancel ∧ cancel ≤ ended) ∧
      (ops.Punctual →
        ended ≤ c.timeoutMs ∧
        (r.status = .timedOut ↔ (∀ x ∈ xs, x.Undecided m) ∧ e ≠ .interrupted) ∧
        (r.status = .timedOut → ended = c.timeoutMs ∧ r.message = some
          ("no terminal marker within " ++ Text.Decimal.text c.timeoutSecs.toNat ++ "s")) ∧
        (ended < c.timeoutMs → e = .interrupted ∨ ∃ x ∈ xs.getLast?, ¬ x.Undecided m)) := by
  have accepted := Config.validate_eq_ok.mp h
  have hl : 0 < (Plan.ofConfig c m cancelAt clock echo).lineTimeoutMs := accepted.lineTimeoutMs_pos
  obtain ⟨w, e, complete, course, rfl, calls⟩ := run?_course ho hr started
  have reads : (w.guest.2.map Exchange.call).filter Call.isAnswered =
      w.guest.2.map Exchange.call := by
    simp [List.filter_eq_self, Exchange.call, Call.isAnswered]
  have interrupted := complete.closing.interrupted_iff complete.allowed accepted.timeoutMs_pos
  refine ⟨_, _, e, course, ?_, ?_, ?_, interrupted.trans Plan.cancelledBy_iff, fun punctual => ?_⟩
  · rw [calls]
    obtain ⟨hc, -⟩ | ⟨hc, -⟩ := complete.calls <;>
      simp [hc, List.filter_cons, reads, Call.isAnswered]
  · intro x hx
    exact (complete.allowed x (List.mem_reverse.mp hx)).admits hl
  · intro wait hw
    rw [calls, List.mem_reverse, List.mem_cons] at hw
    obtain ⟨rfl, early⟩ := complete.abandoned (hw.resolve_left (by simp))
    rw [List.reverse_reverse]
    exact Plan.admits_waitAt hl early
  · obtain ⟨le, timedOut_iff, timedOut, early⟩ := complete.timely punctual
    have undecided_iff : (∀ x ∈ w.guest.2.reverse, x.Undecided m) ↔
        ∀ x ∈ w.guest.2, x.Undecided m := by simp only [List.mem_reverse]
    have seconds : c.timeoutMs / 1000 = c.timeoutSecs.toNat := by simp [Config.timeoutMs]
    rw [undecided_iff, List.getLast?_reverse, ← seconds]
    exact ⟨le, timedOut_iff, timedOut, early⟩

/-- A stream that falls silent: the last wait is cut to what is left until the deadline. -/
theorem deadline_kept_silent :
    ∃ (c : Config) (o : Outcome (Playback LineReader)) (r : Report) (ended : Nat),
      c.validate = .ok () ∧ c.timeoutMs = 2000 ∧ c.lineTimeoutMs = 1500 ∧
      LineReader.run? (.ofConfig c .default none 0 false) "qemu"
        ⟨.ofStream [.delay 300, .bytes [0x62, 0x0A], .hang], none, none⟩ = some o ∧
      o.report = some r ∧
      o.calls = [.start, .read 1500 false, .read 1500 false, .read 200 false, .stop] ∧
      ended = 2000 ∧ r.elapsedMs = .ofNat ended ∧
      r.message = some "no terminal marker within 2s" := by
  let c : Config := { timeoutSecs := 2, lineTimeoutMs := 1500 }
  have valid : c.validate = .ok () := rfl
  have deadline : c.timeoutMs = 2000 := by decide
  have plan : Plan.ofConfig c .default none 0 false = ⟨2000, 1500, .default, none, 0, false⟩ := by
    rw [Plan.ofConfig, deadline]
    rfl
  obtain ⟨o, ho, r, hr, calls, status, elapsed⟩ :
      ∃ o, LineReader.run? (.ofConfig c .default none 0 false) "qemu"
          ⟨.ofStream [.delay 300, .bytes [0x62, 0x0A], .hang], none, none⟩ = some o ∧
        ∃ r, o.report = some r ∧
          o.calls = [.start, .read 1500 false, .read 1500 false, .read 200 false, .stop] ∧
          r.status = .timedOut ∧ r.elapsedMs = .ofNat 2000 := by
    rw [plan]
    exact ⟨_, rfl, _, rfl, rfl, rfl, rfl⟩
  obtain ⟨xs, ended, e, -, -, -, -, -, timely⟩ := deadline_kept valid ho hr rfl
  obtain ⟨-, -, timedOut, -⟩ := timely LineReader.punctual
  obtain ⟨reached, message⟩ := timedOut status
  have seconds : "no terminal marker within " ++ Text.Decimal.text c.timeoutSecs.toNat ++ "s" =
      "no terminal marker within 2s" := by decide +kernel
  rw [deadline] at reached
  rw [seconds] at message
  exact ⟨c, o, r, ended, valid, deadline, rfl, ho, hr, calls, reached, reached ▸ elapsed, message⟩

end Run

end GuestWatch
