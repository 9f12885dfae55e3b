import GuestWatch.Proofs.Run.Course
import GuestWatch.Proofs.Run.Playing
import Mathlib.Algebra.Order.Floor.Div

/-! # Waits in vain

A read that waits for as long as it was told to and gives nothing takes a whole line timeout off the
time that is left, or all of it. So the deadline bounds how many reads can wait in vain, whatever
the guest does. Over a guest that uses up what it has to say, every other read uses up some of it:
such a run has no more reads than the guest has answers, and those waits.
-/
namespace GuestWatch

variable {σ : Type}

/-- Whether a read has waited for as long as it was told to and given nothing. -/
def Exchange.inVain (x : Exchange) : Bool :=
  match x.answer with
  | .ok none => x.wait ≤ x.took
  | _ => false

namespace Run

def Call.isRead : Call → Bool
  | .read _ _ => true
  | _ => false

variable {ops : Operations σ} {p : Plan} {rank : σ → Nat} {w w' u : Watch σ} {e : Ending}
  {fuel bound : Nat}

/-! ## The waits that are left -/

/-- How often a read can wait in vain from a time on. -/
def Plan.waitsLeft (p : Plan) (now : Nat) : Nat := (p.timeoutMs - now) ⌈/⌉ p.lineTimeoutMs

theorem Plan.le_mul_waitsLeft (hl : 0 < p.lineTimeoutMs) (now : Nat) :
    p.timeoutMs - now ≤ p.lineTimeoutMs * p.waitsLeft now :=
  (ceilDiv_le_iff_le_mul hl).mp (Nat.le_refl _)

theorem Plan.waitsLeft_pos (hl : 0 < p.lineTimeoutMs) {now : Nat} (early : now < p.timeoutMs) :
    0 < p.waitsLeft now := by
  refine Nat.pos_of_ne_zero fun none => ?_
  have left := p.le_mul_waitsLeft hl now
  rw [none] at left
  omega

theorem Plan.waitsLeft_le (hl : 0 < p.lineTimeoutMs) (now took : Nat) :
    p.waitsLeft (now + took) ≤ p.waitsLeft now := by
  have left := p.le_mul_waitsLeft hl now
  exact (ceilDiv_le_iff_le_mul hl).mpr (Nat.le_trans (by omega) left)

/-- A wait in vain takes a whole line timeout off the time that is left, or all of it. -/
theorem Plan.waitsLeft_lt (hl : 0 < p.lineTimeoutMs) {now took : Nat} (early : now < p.timeoutMs)
    (ht : p.waitAt now ≤ took) : p.waitsLeft (now + took) < p.waitsLeft now := by
  have left := p.le_mul_waitsLeft hl now
  have spent : p.timeoutMs - (now + took) ≤ p.lineTimeoutMs * (p.waitsLeft now - 1) := by
    rw [Nat.mul_sub_one]
    simp only [waitAt] at ht
    omega
  have fewer : p.waitsLeft (now + took) ≤ p.waitsLeft now - 1 :=
    (ceilDiv_le_iff_le_mul hl).mpr spent
  have := p.waitsLeft_pos hl early
  omega

/-! ## Watches that need not end -/

/-- A watch after a number of turns, or at its end if that comes before. -/
def watchFor (ops : Operations σ) (p : Plan) (w : Watch σ) : Nat → Watch σ
  | 0 => w
  | turns + 1 =>
    match turn ops p w with
    | (w, some _) => w
    | (w, none) => watchFor ops p w turns

theorem watchFor_of_watch (h : watch ops p w fuel = some (u, e)) : watchFor ops p w fuel = u := by
  induction fuel generalizing w with
  | zero => simp [watch] at h
  | succ fuel ih =>
    rcases hv : turn ops p w with ⟨v, _ | ending⟩
    · simp only [watch, hv] at h
      simp only [watchFor, hv]
      exact ih h
    · simp only [watch, hv, Option.some.injEq, Prod.mk.injEq] at h
      simp only [watchFor, hv, h.1]

/-- What holds at the beginning of a watch and is kept by every turn holds after any number of
turns. -/
theorem watchFor_induction {I : Watch σ → Prop}
    (moves : ∀ {w w' e}, I w → Turn ops p w w' e → I w') (hw : I w) (turns : Nat) :
    I (watchFor ops p w turns) := by
  induction turns generalizing w with
  | zero => exact hw
  | succ turns ih =>
    have kept := moves hw (turn_spec ops p w)
    rcases hv : turn ops p w with ⟨v, _ | ending⟩
    · rw [hv] at kept
      simp only [watchFor, hv]
      exact ih kept
    · rw [hv] at kept
      simp only [watchFor, hv]
      exact kept

/-! ## Waits in vain over every guest -/

/-- How often a guest has waited in vain by its own record, and how often it still can. -/
def Watch.waits (p : Plan) (w : Watch (σ × List Exchange)) : Nat :=
  w.guest.2.countP Exchange.inVain + p.waitsLeft w.now

theorem Watch.Answered.waits_le (hl : 0 < p.lineTimeoutMs) {w : Watch (σ × List Exchange)}
    {answer : Reading} {took : Nat} {g : σ × List Exchange}
    (h : w.Answered ops.recorded p answer took g) :
    g.2.countP Exchange.inVain + p.waitsLeft (w.now + took) ≤ w.waits p := by
  obtain ⟨-, record⟩ := Operations.recorded_read h.read
  rw [record, List.countP_cons, Watch.waits]
  have fewer := p.waitsLeft_le hl w.now took
  split
  · next vain =>
    have waited : p.waitAt w.now ≤ took := by
      match answer, vain with
      | .ok none, vain => simpa [Exchange.inVain] using vain
    have := p.waitsLeft_lt hl h.early waited
    omega
  · omega

theorem Turn.waits_le (hl : 0 < p.lineTimeoutMs) {w w' : Watch (σ × List Exchange)}
    {ending : Option Ending} (ht : Turn ops.recorded p w w' ending) : w'.waits p ≤ w.waits p := by
  have later := ht.now_le
  cases ht with
  | expired | cancelled => exact Nat.le_refl _
  | abandoned =>
    obtain ⟨lapse, time⟩ := Nat.exists_eq_add_of_le later
    rw [Watch.waits, time]
    exact Nat.add_le_add_left (p.waitsLeft_le hl w.now lapse) _
  | failed _ took g h | silent took g h | decided _ _ took g h | heard _ took g h =>
    exact h.waits_le hl

/-- However long a watch goes on, no more of its reads wait in vain than there are line timeouts
to the deadline, the last of which may be cut short. -/
theorem watchFor_waits (hl : 0 < p.lineTimeoutMs) (ops : Operations σ) (s : σ) (turns : Nat) :
    (watchFor ops.recorded p (.fresh (s, [])) turns).guest.2.countP Exchange.inVain ≤
      p.timeoutMs ⌈/⌉ p.lineTimeoutMs := by
  have kept : (watchFor ops.recorded p (.fresh (s, [])) turns).waits p ≤
      (Watch.fresh (s, [])).waits p :=
    watchFor_induction (fun hw ht => (ht.waits_le hl).trans hw) (Nat.le_refl _) turns
  have begun : (Watch.fresh (s, [])).waits p = p.timeoutMs ⌈/⌉ p.lineTimeoutMs := Nat.zero_add _
  exact (Nat.le_add_right _ _).trans (begun ▸ kept)

variable {guest : String} {s : σ} {o : Outcome σ}

theorem run?_waits_le (hl : 0 < p.lineTimeoutMs) {r : Report}
    (h : run? ops p guest s fuel = some o) (hr : o.report = some r)
    (started : (ops.start s).1 = .ok ()) :
    ∃ xs ended e, Course ops p guest s fuel o xs ended e ∧
      xs.countP Exchange.inVain ≤ p.timeoutMs ⌈/⌉ p.lineTimeoutMs := by
  obtain ⟨f, s', hs, rfl⟩ | ⟨s', hs, unfit, rfl⟩ | ⟨s', v, e, hs, hp, hv, rfl⟩ := run?_cases h
  · rw [hs] at started
    cases started
  · cases hr
  · obtain ⟨w, hw, rfl⟩ := recorded_of_watch hv
    refine ⟨_, _, e, course_of_watch hs hp hw, ?_⟩
    rw [List.countP_reverse, ← watchFor_of_watch hw]
    exact watchFor_waits hl ops s' fuel

/-! ## Reads over guests that drain -/

/-- A watch that keeps within a number of reads: those that it has asked for, together with those
that its guest and the time can still take. -/
def Watch.Within (p : Plan) (rank : σ → Nat) (bound : Nat) (w : Watch σ) : Prop :=
  w.calls.countP Call.isRead + rank w.guest + p.waitsLeft w.now ≤ bound

/-- An answered read uses up something of the guest, or some of the time. -/
theorem Watch.Answered.spends (drains : ops.Drains rank) (hl : 0 < p.lineTimeoutMs)
    {answer : Option String} {took : Nat} {guest : σ}
    (h : w.Answered ops p (.ok answer) took guest) :
    rank guest + p.waitsLeft (w.now + took) < rank w.guest + p.waitsLeft w.now := by
  obtain lower | ⟨-, same, wait⟩ := drains h.read
  · have := p.waitsLeft_le hl w.now took
    omega
  · have := p.waitsLeft_lt hl h.early wait
    omega

theorem Watch.Within.turn (drains : ops.Drains rank) (hl : 0 < p.lineTimeoutMs)
    (h : w.Within p rank bound) (ht : Turn ops p w w' none) : w'.Within p rank bound := by
  have asked : (Call.read (p.waitAt w.now) false).isRead = true := rfl
  cases ht with
  | silent took guest read | heard _ took guest read =>
    have := read.spends drains hl
    simp only [Within, advance, hear, List.countP_cons_of_pos asked] at h ⊢
    omega

theorem Watch.Within.done (hl : 0 < p.lineTimeoutMs) (h : w.Within p rank bound)
    (ht : Turn ops p w w' (some e)) : w'.calls.countP Call.isRead ≤ bound := by
  have asked (abandoned : Bool) : (Call.read (p.waitAt w.now) abandoned).isRead = true := rfl
  rw [Within] at h
  cases ht with
  | expired | cancelled => omega
  -- The read that ends the watch is paid for by the time that was left when it was asked for.
  | abandoned answer took guest early =>
    have := p.waitsLeft_pos hl early
    simp only [abandon, List.countP_cons_of_pos (asked true)]
    omega
  | failed _ _ _ read | decided _ _ _ _ read =>
    have := p.waitsLeft_pos hl read.early
    simp only [advance, hear, List.countP_cons_of_pos (asked false)]
    omega

/-- A run asks for no more reads than its guest can answer, and the waits in vain to the
deadline. -/
theorem run?_reads_le (drains : ops.Drains rank) (hl : 0 < p.lineTimeoutMs)
    (h : run? ops p guest s fuel = some o) :
    o.calls.countP Call.isRead ≤ rank (ops.start s).2 + p.timeoutMs ⌈/⌉ p.lineTimeoutMs := by
  obtain ⟨f, s', -, rfl⟩ | ⟨s', -, -, rfl⟩ | ⟨s', w, e, hs, -, hw, rfl⟩ := run?_cases h
  · exact Nat.zero_le _
  · exact Nat.zero_le _
  · rw [hs]
    have fresh : (Watch.fresh s').Within p rank (rank s' + p.timeoutMs ⌈/⌉ p.lineTimeoutMs) := by
      simp [Watch.Within, Watch.fresh, Plan.waitsLeft, Call.isRead]
    have within := watch_induction (Watch.Within.turn drains hl) (Watch.Within.done hl) fresh hw
    simpa [Watch.conclude, Call.isRead] using within

variable {c : Config}

/-- Under a configuration with a line timeout and a deadline that the clock can tell. Over every
guest, after any number of turns and in every run that leaves a report, no more reads have waited in
vain than there are line timeouts in the timeout, rounded up. Every script is run to its end with no
more reads than it has steps and there can be such waits. -/
theorem reads_bounded (hl : 0 < c.lineTimeoutMs) {clock : Nat}
    (fits : clock + c.timeoutMs < clockEnd) (m : Markers) (cancelAt : Option Nat) (echo : Bool)
    (guest : String) :
    (∀ {σ : Type} (ops : Operations σ) (s : σ),
      (∀ turns, (watchFor ops.recorded (.ofConfig c m cancelAt clock echo) (.fresh (s, []))
        turns).guest.2.countP Exchange.inVain ≤ c.timeoutMs ⌈/⌉ c.lineTimeoutMs.toNat) ∧
      ∀ fuel o r, run? ops (.ofConfig c m cancelAt clock echo) guest s fuel = some o →
        o.report = some r → (ops.start s).1 = .ok () →
        ∃ xs ended e, Course ops (.ofConfig c m cancelAt clock echo) guest s fuel o xs ended e ∧
          xs.countP Exchange.inVain ≤ c.timeoutMs ⌈/⌉ c.lineTimeoutMs.toNat) ∧
    ∀ s : Playback Script, ∃ o r,
      Script.run? (.ofConfig c m cancelAt clock echo) guest s = some o ∧ o.report = some r ∧
      o.calls.countP Call.isRead ≤
        s.source.length + c.timeoutMs ⌈/⌉ c.lineTimeoutMs.toNat := by
  have positive : 0 < (Plan.ofConfig c m cancelAt clock echo).lineTimeoutMs :=
    UInt64.lt_iff_toNat_lt.mp hl
  refine ⟨fun ops s => ⟨watchFor_waits positive ops s, fun fuel o r ho hr started => ?_⟩,
    fun s => ?_⟩
  · exact run?_waits_le positive ho hr started
  · obtain ⟨o, ho⟩ := Script.run?_ends (p := .ofConfig c m cancelAt clock echo) positive guest s
    have settled := settled_of_run? positive ho
    have drains : (Playback.operations Script.read).Drains (·.source.length) :=
      Playback.operations_drains Script.read_uses
    have reads := run?_reads_le drains positive ho
    obtain ⟨r, hr⟩ : ∃ r, o.report = some r := by
      by_cases started : s.onStart = none
      · exact (settled.stopped started fits).1
      · exact (settled.unstarted started).1
    exact ⟨o, r, ho, hr, reads⟩

/-- A script of one step: three more reads wait in vain, the last for what is left of the second. -/
theorem reads_bounded_silence :
    ∃ (c : Config) (o : Outcome (Playback Script)) (r : Report),
      c.timeoutMs = 1000 ∧ c.lineTimeoutMs = 400 ∧
      Script.run? (.ofConfig c .default none 0 false) "qemu" ⟨[.silence], none, none⟩ = some o ∧
      o.report = some r ∧ r.status = .timedOut ∧
      o.calls = [.start, .read 400 false, .read 400 false, .read 400 false, .read 200 false,
        .stop] ∧
      c.timeoutMs ⌈/⌉ c.lineTimeoutMs.toNat = 3 ∧ o.calls.countP Call.isRead ≤ 1 + 3 := by
  let c : Config := { timeoutSecs := 1, lineTimeoutMs := 400 }
  have deadline : c.timeoutMs = 1000 := by decide
  have plan : Plan.ofConfig c .default none 0 false = ⟨1000, 400, .default, none, 0, false⟩ := by
    rw [Plan.ofConfig, deadline]
    rfl
  have waits : c.timeoutMs ⌈/⌉ c.lineTimeoutMs.toNat = 3 := by decide
  have fits : 0 + c.timeoutMs < clockEnd := by decide
  obtain ⟨-, scripts⟩ := reads_bounded (by decide : 0 < c.lineTimeoutMs) fits .default none false
    "qemu"
  obtain ⟨o, r, ho, hr, reads⟩ := scripts ⟨[.silence], none, none⟩
  rw [waits] at reads
  have calls : r.status = .timedOut ∧ o.calls = [.start, .read 400 false, .read 400 false,
      .read 400 false, .read 200 false, .stop] := by
    rw [plan] at ho
    cases ho
    cases hr
    exact ⟨rfl, rfl⟩
  exact ⟨c, o, r, deadline, rfl, ho, hr, calls.1, calls.2, waits, reads⟩

end Run

end GuestWatch
