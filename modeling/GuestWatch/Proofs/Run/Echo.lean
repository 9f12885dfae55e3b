import GuestWatch.Proofs.Run.Watch

/-! # The echo

Where lines are to be shown, a turn shows the line that it hears, with a line feed after it, and
nothing else. So at any time of a run what has been shown is what has been heard until then, and in
the end it is the output of the report.
-/
namespace GuestWatch.Run

variable {σ : Type} {ops : Operations σ} {p : Plan} {w w' : Watch σ}

/-- What is shown of lines that are heard one after another. -/
def Plan.echoed (p : Plan) (lines : List String) : String := String.join (lines.map p.shows)

theorem Plan.echoed_of_echo (h : p.echo = true) (lines : List String) :
    p.echoed lines = String.join (lines.map (· ++ "\n")) := by
  have shown : p.shows = (· ++ "\n") := funext fun line => if_pos h
  rw [echoed, shown]

theorem Plan.echoed_of_quiet (h : p.echo = false) (lines : List String) : p.echoed lines = "" := by
  induction lines with
  | nil => rfl
  | cons line lines ih => simpa [echoed, shows, h] using ih

theorem Plan.echoed_append (p : Plan) (lines more : List String) :
    p.echoed (lines ++ more) = p.echoed lines ++ p.echoed more := by
  rw [echoed, List.map_append, String.join_append]
  rfl

/-- What a watch has shown is what it has heard. -/
def Watch.Echoes (p : Plan) (w : Watch σ) : Prop := w.shown = p.echoed w.output.reverse

/-- A turn hears one line at most, and shows just that. -/
theorem Turn.shown {e : Option Ending} (ht : Turn ops p w w' e) :
    ∃ heard : Option String, w'.output = heard.toList ++ w.output ∧
      w'.shown = w.shown ++ p.echoed heard.toList := by
  have nothing : w.shown = w.shown ++ p.echoed [] := String.append_empty.symm
  cases ht with
  | expired | cancelled | abandoned | failed | silent => exact ⟨none, rfl, nothing⟩
  | decided line | heard line =>
    have once : p.shows line = p.echoed [line] := String.empty_append.symm
    exact ⟨some line, rfl, congrArg (w.shown ++ ·) once⟩

theorem Watch.Echoes.turn {e : Option Ending} (h : w.Echoes p) (ht : Turn ops p w w' e) :
    w'.Echoes p := by
  obtain ⟨heard, output, shown⟩ := ht.shown
  have single : heard.toList.reverse = heard.toList := by cases heard <;> rfl
  rw [Echoes, shown, h, output, List.reverse_append, single, Plan.echoed_append]

theorem watch_echoes {s : σ} {fuel : Nat} {e : Ending}
    (h : watch ops p (.fresh s) fuel = some (w, e)) : w.Echoes p := by
  have fresh : (Watch.fresh s).Echoes p := rfl
  exact watch_induction (Q := fun w _ => w.Echoes p) Watch.Echoes.turn Watch.Echoes.turn fresh h

/-- A run has shown the output of its report, and nothing if it leaves none. -/
theorem run?_shown {guest : String} {s : σ} {fuel : Nat} {o : Outcome σ}
    (h : run? ops p guest s fuel = some o) :
    (∀ r, o.report = some r → o.shown = p.echoed r.output) ∧ (o.report = none → o.shown = "") := by
  obtain ⟨f, s', -, rfl⟩ | ⟨s', -, -, rfl⟩ | ⟨s', w, e, -, -, hw, rfl⟩ := run?_cases h
  · exact ⟨by rintro r ⟨⟩; rfl, fun _ => rfl⟩
  · exact ⟨by simp, fun _ => rfl⟩
  · refine ⟨?_, by simp [Watch.conclude]⟩
    rintro r ⟨⟩
    exact watch_echoes hw

end GuestWatch.Run
