/-! # Blank characters

Characters with the white-space property, and removal of unwanted characters at both ends.
-/
namespace GuestWatch.Text

/-- The twenty-five characters that count as white space. -/
def isBlank (c : Char) : Bool :=
  let n := c.toNat
  (0x09 ≤ n && n ≤ 0x0D) || n == 0x20 || n == 0x85 || n == 0xA0 || n == 0x1680 ||
    (0x2000 ≤ n && n ≤ 0x200A) || n == 0x2028 || n == 0x2029 || n == 0x202F || n == 0x205F ||
    n == 0x3000

/-- Without the last characters, as long as they satisfy `p`. -/
def dropTail (p : Char → Bool) (cs : List Char) : List Char := (cs.reverse.dropWhile p).reverse

/-- Without the first and last characters, as long as they satisfy `p`. -/
def strip (p : Char → Bool) (cs : List Char) : List Char := dropTail p (cs.dropWhile p)

/-- Without blanks at either end. -/
def trim (cs : List Char) : List Char := strip isBlank cs

@[simp] theorem dropTail_nil (p : Char → Bool) : dropTail p [] = [] := rfl

@[simp] theorem strip_nil (p : Char → Bool) : strip p [] = [] := rfl

theorem dropTail_append_singleton {p : Char → Bool} {c : Char} (h : p c = true)
    (cs : List Char) : dropTail p (cs ++ [c]) = dropTail p cs := by
  simp [dropTail, h]

theorem dropTail_cons (p : Char → Bool) (c : Char) (cs : List Char) :
    dropTail p (c :: cs) =
      if dropTail p cs = [] ∧ p c = true then [] else c :: dropTail p cs := by
  simp only [dropTail, List.reverse_cons, List.dropWhile_append, List.reverse_eq_nil_iff,
    List.isEmpty_iff]
  by_cases h : cs.reverse.dropWhile p = [] <;> by_cases hc : p c = true <;> simp [h, hc]

theorem dropTail_congr {p q : Char → Bool} {cs : List Char} (h : ∀ c ∈ cs, p c = q c) :
    dropTail p cs = dropTail q cs := by
  induction cs with
  | nil => rfl
  | cons c cs ih =>
    obtain ⟨hc, hcs⟩ := List.forall_mem_cons.mp h
    rw [dropTail_cons, dropTail_cons, ih hcs, hc]

/-- It does not matter at which end stripping begins. -/
theorem dropWhile_dropTail (p : Char → Bool) (cs : List Char) :
    (dropTail p cs).dropWhile p = strip p cs := by
  induction cs with
  | nil => rfl
  | cons c cs ih =>
    unfold strip at *
    rw [dropTail_cons]
    by_cases hc : p c = true
    · rw [List.dropWhile_cons_of_pos hc, ← ih]
      by_cases h : dropTail p cs = [] <;> simp [h, hc]
    · simp [hc, dropTail_cons]

end GuestWatch.Text
