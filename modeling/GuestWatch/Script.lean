import GuestWatch.Run

/-! # Scripted guests

A guest that plays a list of steps, one for each read, and one that plays a stream. Both can be
told to fail when they are started or stopped.
-/
namespace GuestWatch

/-- What a read meets. A step that comes too late for a read stays, with less time to go; a late
one makes the read wait beyond its time. -/
inductive Step
  | line (text : String)
  | silence
  | after (ms : Nat) (text : String)
  | late (ms : Nat) (text : Option String)
  | failure (f : Fault)
deriving DecidableEq, Repr

abbrev Script := List Step

namespace Script

/-- One read; when no step is left the guest is silent. -/
def read (s : Script) (wait : Nat) : Reading × Nat × Script :=
  match s with
  | [] => (.ok none, wait, [])
  | .line text :: rest => (.ok (some text), 0, rest)
  | .silence :: rest => (.ok none, 0, rest)
  | .after ms text :: rest =>
    if ms ≤ wait then (.ok (some text), ms, rest)
    else (.ok none, wait, .after (ms - wait) text :: rest)
  | .late ms text :: rest => (.ok text, ms, rest)
  | .failure f :: rest => (.error f, 0, rest)

end Script

/-- A source with what starting and stopping it answer the first time. -/
structure Playback (σ : Type) where
  source : σ
  onStart : Option Fault
  onStop : Option Fault

namespace Playback

def answer : Option Fault → Except Fault Unit
  | some f => .error f
  | none => .ok ()

/-- Plays a source that is read by `read`. -/
def operations {σ : Type} (read : σ → Nat → Reading × Nat × σ) : Operations (Playback σ) where
  start s := (answer s.onStart, { s with onStart := none })
  read s wait :=
    let (reading, took, source) := read s.source wait
    (reading, took, { s with source })
  stop s := (answer s.onStop, { s with onStop := none })

@[simp] theorem answer_eq_ok {onStart : Option Fault} :
    answer onStart = .ok () ↔ onStart = none := by cases onStart <;> simp [answer]

@[simp] theorem answer_eq_error {onStart : Option Fault} {f : Fault} :
    answer onStart = .error f ↔ onStart = some f := by cases onStart <;> simp [answer]

/-- A read passes through to the source and leaves the rest as it is. -/
theorem operations_read {σ : Type} {read : σ → Nat → Reading × Nat × σ} {s s' : Playback σ}
    {wait took : Nat} {answer : Reading} (h : (operations read).read s wait = (answer, took, s')) :
    read s.source wait = (answer, took, s'.source) := by
  simp only [operations, Prod.mk.injEq] at h
  obtain ⟨rfl, rfl, rfl⟩ := h
  rfl

end Playback

/-- Runs a guest that plays a script. -/
def Script.run? (p : Run.Plan) (guest : String) (s : Playback Script) :
    Option (Run.Outcome (Playback Script)) :=
  Run.run? (Playback.operations Script.read) p guest s (p.turns s.source.length)

/-- Runs a guest that plays a stream. -/
def LineReader.run? (p : Run.Plan) (guest : String) (s : Playback LineReader) :
    Option (Run.Outcome (Playback LineReader)) :=
  Run.run? (Playback.operations LineReader.nextLine) p guest s (p.turns s.source.answers)

end GuestWatch
