import GuestWatch.Proofs.Config.Accepted
import GuestWatch.Proofs.Run.Protocol
import GuestWatch.Script

/-! # Runs come to an end

Each turn of a watch either uses up part of what the guest still has to say or waits for as long as
it may. A guest that can answer only so often therefore leaves only so many turns before the
deadline, and scripts and streams are such guests.
-/
namespace GuestWatch

variable {σ : Type}

/-- What a guest still has to say is a number: every answer lowers it, and a read without an answer
leaves it as it was only if it takes the whole wait. -/
def Operations.Drains (ops : Operations σ) (rank : σ → Nat) : Prop :=
  ∀ {s s' : σ} {wait took : Nat} {answer : Option String},
    ops.read s wait = (.ok answer, took, s') →
      rank s' < rank s ∨ answer = none ∧ rank s' ≤ rank s ∧ wait ≤ took

namespace Run

variable {ops : Operations σ} {p : Plan} {rank : σ → Nat} {w w' : Watch σ}

/-- How many whole line timeouts are left at a time. -/
def Plan.periodsLeft (p : Plan) (now : Nat) : Nat := (p.timeoutMs - now) / p.lineTimeoutMs

theorem Plan.periodsLeft_le {now later : Nat} (ht : now ≤ later) :
    p.periodsLeft later ≤ p.periodsLeft now := Nat.div_le_div_right (Nat.sub_le_sub_left ht _)

theorem Plan.periodsLeft_lt {now later : Nat} (hl : 0 < p.lineTimeoutMs)
    (ht : now + p.lineTimeoutMs ≤ later) (early : later ≤ p.timeoutMs) :
    p.periodsLeft later < p.periodsLeft now := by
  unfold periodsLeft
  rw [Nat.lt_iff_add_one_le, ← Nat.add_div_right _ hl]
  exact Nat.div_le_div_right (by omega)

/-- A bound on the turns of a watch that has reached a time, over a guest of a given rank. -/
def Plan.turnsFrom (p : Plan) (now rank : Nat) : Nat :=
  rank + (if p.timeoutMs ≤ now then 0 else p.periodsLeft now + 1) + 1

theorem Plan.turnsFrom_lt_of_rank {now later a b : Nat} (hr : a < b) (ht : now ≤ later) :
    p.turnsFrom later a < p.turnsFrom now b := by
  have hd := p.periodsLeft_le ht
  unfold turnsFrom
  split <;> split <;> omega

/-- A wait in vain takes a whole line timeout off the time that is left, or all of it. -/
theorem Plan.turnsFrom_lt_of_wait {now took a b : Nat} (hl : 0 < p.lineTimeoutMs) (hr : a ≤ b)
    (early : now < p.timeoutMs) (ht : p.waitAt now ≤ took) :
    p.turnsFrom (now + took) a < p.turnsFrom now b := by
  unfold turnsFrom
  rw [if_neg (Nat.not_le.mpr early)]
  split
  · omega
  · next later =>
    have wait : p.lineTimeoutMs ≤ took := by
      simp only [waitAt] at ht
      omega
    have hd : p.periodsLeft (now + took) < p.periodsLeft now :=
      periodsLeft_lt hl (by omega) (by omega)
    omega

theorem Operations.Drains.turn (h : ops.Drains rank) (hl : 0 < p.lineTimeoutMs)
    (ht : Turn ops p w w' none) :
    p.turnsFrom w'.now (rank w'.guest) < p.turnsFrom w.now (rank w.guest) := by
  cases ht with
  | silent took guest read =>
    obtain lower | ⟨-, same, wait⟩ := h read.read
    · exact Plan.turnsFrom_lt_of_rank lower (Nat.le_add_right _ _)
    · exact Plan.turnsFrom_lt_of_wait hl same read.early wait
  | heard line took guest read verdict =>
    have lower : rank guest < rank w.guest := (h read.read).resolve_right (by simp)
    exact Plan.turnsFrom_lt_of_rank lower (Nat.le_add_right _ _)

/-- A watch over a guest that drains ends within its bound. -/
theorem watch_ends (h : ops.Drains rank) (hl : 0 < p.lineTimeoutMs) {fuel : Nat}
    (hf : p.turnsFrom w.now (rank w.guest) ≤ fuel) : ∃ w' e, watch ops p w fuel = some (w', e) := by
  induction fuel generalizing w with
  | zero => simp [Plan.turnsFrom] at hf
  | succ fuel ih =>
    have ht := turn_spec ops p w
    rcases hv : turn ops p w with ⟨v, _ | e⟩
    · rw [hv] at ht
      have lower : p.turnsFrom v.now (rank v.guest) < p.turnsFrom w.now (rank w.guest) :=
        Operations.Drains.turn h hl ht
      simp only [watch, hv]
      exact ih (by omega)
    · exact ⟨v, e, by simp only [watch, hv]⟩

theorem run?_ends (h : ops.Drains rank) (hl : 0 < p.lineTimeoutMs) (guest : String) {s : σ}
    {answers : Nat} (hr : rank (ops.start s).2 ≤ answers) :
    ∃ o, run? ops p guest s (p.turns answers) = some o := by
  rcases hs : ops.start s with ⟨_ | _, s'⟩
  · exact ⟨_, run?_of_start_error ops hs⟩
  · rw [hs] at hr
    cases hp : p.deadlineFits with
    | false => exact ⟨_, run?_of_unfit ops hs hp⟩
    | true =>
      have hf : p.turnsFrom 0 (rank s') ≤ p.turns answers := by
        have hm : p.turns answers = answers + p.periodsLeft 0 + 3 := by
          simp only [Plan.turns, Plan.periodsLeft, Nat.max_eq_right hl, Nat.sub_zero]
        simp only [Plan.turnsFrom, hm] at *
        split <;> omega
      obtain ⟨w, e, hw⟩ := watch_ends (w := .fresh s') h hl hf
      exact ⟨_, by rw [run?_of_started ops hs hp, hw]; rfl⟩

end Run

end GuestWatch
