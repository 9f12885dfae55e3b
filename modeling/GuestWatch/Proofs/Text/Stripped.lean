import Mathlib.Data.List.DropRight
import GuestWatch.Text.Blank

/-! # Stripped text

Stripping takes unwanted characters off both ends of a text and nothing else. It does so at once,
and leaves a text alone that has no such character at an end.
-/
namespace GuestWatch.Text

variable {p q : Char → Bool} {c : Char} {cs front back part : List Char}

theorem mem_of_mem_strip (h : c ∈ strip p cs) : c ∈ cs := by
  have rest : c ∈ cs.dropWhile p :=
    List.mem_reverse.mp ((List.dropWhile_sublist p).subset (List.mem_reverse.mp h))
  exact (List.dropWhile_sublist p).subset rest

theorem strip_cons (h : p c = true) (cs : List Char) : strip p (c :: cs) = strip p cs := by
  rw [strip, strip, List.dropWhile_cons_of_pos h]

theorem strip_append_singleton (h : p c = true) (cs : List Char) :
    strip p (cs ++ [c]) = strip p cs := by
  rw [← dropWhile_dropTail, dropTail_append_singleton h, dropWhile_dropTail]

theorem dropTail_append (h : ∀ c ∈ back, p c = true) (cs : List Char) :
    dropTail p (cs ++ back) = dropTail p cs := by
  have last : ∀ c ∈ back.reverse, p c = true := fun c hc => h c (List.mem_reverse.mp hc)
  rw [dropTail, List.reverse_append, List.dropWhile_append_of_pos last, dropTail]

/-- What is stripped off may as well not be there. -/
theorem strip_append (first : ∀ c ∈ front, p c = true) (last : ∀ c ∈ back, p c = true)
    (cs : List Char) : strip p (front ++ cs ++ back) = strip p cs := by
  rw [List.append_assoc, strip, List.dropWhile_append_of_pos first, ← strip,
    ← dropWhile_dropTail, dropTail_append last, dropWhile_dropTail]

theorem exists_dropTail (p : Char → Bool) (cs : List Char) :
    ∃ back, cs = dropTail p cs ++ back ∧ ∀ c ∈ back, p c = true := by
  refine ⟨(cs.reverse.takeWhile p).reverse, ?_, ?_⟩
  · rw [dropTail, ← List.reverse_append, List.takeWhile_append_dropWhile, List.reverse_reverse]
  · intro c hc
    exact List.mem_takeWhile_imp (List.mem_reverse.mp hc)

theorem exists_strip (p : Char → Bool) (cs : List Char) :
    ∃ front back, cs = front ++ strip p cs ++ back ∧ (∀ c ∈ front, p c = true) ∧
      ∀ c ∈ back, p c = true := by
  obtain ⟨back, split, last⟩ := exists_dropTail p (cs.dropWhile p)
  refine ⟨cs.takeWhile p, back, ?_, fun c hc => List.mem_takeWhile_imp hc, last⟩
  rw [strip, List.append_assoc, ← split, List.takeWhile_append_dropWhile]

/-- Taking off fewer kinds of characters first makes no difference. -/
theorem strip_dropWhile (h : ∀ c, q c = true → p c = true) (cs : List Char) :
    strip p (cs.dropWhile q) = strip p cs := by
  have first : ∀ c ∈ cs.takeWhile q, p c = true := fun c hc => h c (List.mem_takeWhile_imp hc)
  conv_rhs => rw [← @List.takeWhile_append_dropWhile _ q cs]
  simpa using (strip_append first (List.forall_mem_nil _) (cs.dropWhile q)).symm

theorem strip_dropTail (h : ∀ c, q c = true → p c = true) (cs : List Char) :
    strip p (dropTail q cs) = strip p cs := by
  obtain ⟨back, split, last⟩ := exists_dropTail q cs
  have later : ∀ c ∈ back, p c = true := fun c hc => h c (last c hc)
  conv_rhs => rw [split]
  simpa using (strip_append (List.forall_mem_nil _) later (dropTail q cs)).symm

theorem dropWhile_of_head (h : ∀ c ∈ cs.head?, p c = false) : cs.dropWhile p = cs := by
  cases cs with
  | nil => rfl
  | cons c cs => exact List.dropWhile_cons_of_neg (by simp [h c rfl])

theorem strip_of_ends (first : ∀ c ∈ cs.head?, p c = false)
    (last : ∀ c ∈ cs.getLast?, p c = false) : strip p cs = cs := by
  rw [strip, dropWhile_of_head first, dropTail, dropWhile_of_head (by simpa using last),
    List.reverse_reverse]

theorem strip_of_none (h : ∀ c ∈ cs, p c = false) : strip p cs = cs :=
  strip_of_ends (fun c hc => h c (List.mem_of_mem_head? hc))
    fun c hc => h c (List.mem_of_mem_getLast? hc)

theorem dropTail_dropTail (p : Char → Bool) (cs : List Char) :
    dropTail p (dropTail p cs) = dropTail p cs := by
  simp only [dropTail, List.reverse_reverse, List.dropWhile_idempotent]

/-- What has been stripped is not changed by stripping it again. -/
theorem strip_strip (p : Char → Bool) (cs : List Char) : strip p (strip p cs) = strip p cs := by
  have front : (strip p cs).dropWhile p = strip p cs := by
    rw [← dropWhile_dropTail, List.dropWhile_idempotent]
  rw [strip, front, strip, dropTail_dropTail]

/-! ## Parts that stripping leaves alone -/

theorem infix_dropWhile_iff (nonempty : part ≠ []) (bare : ∀ c ∈ part, p c = false) :
    part <:+: cs.dropWhile p ↔ part <:+: cs := by
  induction cs with
  | nil => rfl
  | cons c cs ih =>
    by_cases unwanted : p c = true
    · -- The part does not begin with the character that is taken off.
      have later : ¬ part <+: c :: cs := by
        obtain ⟨d, part, rfl⟩ := List.exists_cons_of_ne_nil nonempty
        intro start
        obtain ⟨rfl, -⟩ := List.cons_prefix_cons.mp start
        rw [bare d List.mem_cons_self] at unwanted
        cases unwanted
      rw [List.dropWhile_cons_of_pos unwanted, ih, List.infix_cons_iff]
      simp only [later, false_or]
    · rw [List.dropWhile_cons_of_neg unwanted]

/-- A part without unwanted characters is as much a part of the stripped text. -/
theorem infix_strip_iff (nonempty : part ≠ []) (bare : ∀ c ∈ part, p c = false) :
    part <:+: strip p cs ↔ part <:+: cs := by
  have turned : ∀ c ∈ part.reverse, p c = false := fun c hc => bare c (List.mem_reverse.mp hc)
  rw [strip, dropTail, ← List.reverse_infix, List.reverse_reverse,
    infix_dropWhile_iff (by simpa using nonempty) turned, List.reverse_infix,
    infix_dropWhile_iff nonempty bare]

end GuestWatch.Text
