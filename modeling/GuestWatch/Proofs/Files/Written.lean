import GuestWatch.Files
import GuestWatch.Proofs.Config.Accepted

/-! # Written files

What is written under a path is what is read under it afterwards. Following the path again leads to
the same place: an entry that is put into a tree does not take the place of a directory, so every
directory on the way is still there and has the names that it had.
-/
namespace GuestWatch.Files

namespace Node

variable {n d : Node} {name other : Name} {names : List Name} {entries : List (Name × Node)}

/-- Whether what is written to a node can be read from it again. -/
def keeps : Node → Bool
  | .device _ | .terminal _ => false
  | _ => true

theorem find?_putEntry_self (entries : List (Name × Node)) (name : Name) (n : Node) :
    (putEntry entries name n).find? (·.1 == name) = some (name, n) := by
  induction entries with
  | nil => simp [putEntry]
  | cons e rest ih => by_cases he : e.1 = name <;> simp [putEntry, he, ih]

theorem find?_putEntry_of_ne (h : other ≠ name) (entries : List (Name × Node)) (n : Node) :
    (putEntry entries name n).find? (·.1 == other) = entries.find? (·.1 == other) := by
  induction entries with
  | nil => simp [putEntry, h.symm]
  | cons e rest ih =>
    by_cases he : e.1 = name
    · simp [putEntry, he, h.symm]
    · simp only [putEntry, he, if_false, List.find?_cons, ih]

theorem get?_put_self (n : Node) (name : Name) (names : List Name) (new : Node) :
    (n.put (name :: names) new).get? name =
      some (((n.get? name).getD (.directory [])).put names new) := by
  simp only [put, get?, Node.entries, find?_putEntry_self, Option.map_some]

theorem get?_put_of_ne (h : other ≠ name) (n : Node) (names : List Name) (new : Node) :
    (n.put (name :: names) new).get? other = n.get? other := by
  simp only [put, get?, Node.entries, find?_putEntry_of_ne h]

theorem get?_of_not_directory (h : n.isDirectory = false) (name : Name) : n.get? name = none := by
  cases n with
  | directory entries => cases h
  | _ => rfl

/-- What has been put somewhere is there. -/
theorem at?_put (n : Node) (names : List Name) (new : Node) :
    (n.put names new).at? names = some new := by
  induction names generalizing n with
  | nil => rfl
  | cons name names ih => rw [at?, get?_put_self, Option.bind_some, ih]

theorem at?_append (n : Node) (front back : List Name) :
    n.at? (front ++ back) = (n.at? front).bind (·.at? back) := by
  induction front generalizing n with
  | nil => rfl
  | cons name front ih => simp only [List.cons_append, at?, ih, Option.bind_assoc]

/-- A directory that still has all its names. -/
structure Extends (d d' : Node) : Prop where
  isDirectory : d'.isDirectory = true
  names : ∀ name, (d.get? name).isSome = true → (d'.get? name).isSome = true

/-- No directory is lost, nor a name in one, when something is put where no directory is. -/
theorem directory_put (free : ∀ old, n.at? names = some old → old.isDirectory = false)
    {others : List Name} (found : n.at? others = some d) (directory : d.isDirectory = true)
    (new : Node) : ∃ d', (n.put names new).at? others = some d' ∧ d.Extends d' := by
  induction names generalizing n others with
  | nil =>
    have file : n.isDirectory = false := free n rfl
    cases others with
    | nil =>
      obtain rfl := Option.some.inj found
      simp [directory] at file
    | cons other others => simp [at?, get?_of_not_directory file] at found
  | cons name names ih =>
    cases others with
    | nil =>
      obtain rfl := Option.some.inj found
      refine ⟨_, rfl, rfl, fun other there => ?_⟩
      by_cases h : other = name
      · rw [h, get?_put_self]
        rfl
      · rwa [get?_put_of_ne h]
    | cons other others =>
      obtain ⟨child, entry, found⟩ := Option.bind_eq_some_iff.mp found
      by_cases h : other = name
      · subst h
        rw [at?, get?_put_self, entry, Option.getD_some, Option.bind_some]
        refine ih (fun old hold => free old ?_) found
        rw [at?, entry, Option.bind_some, hold]
      · refine ⟨d, ?_, directory, fun _ there => there⟩
        rw [at?, get?_put_of_ne h, entry, Option.bind_some, found]

end Node

variable {root new : Node} {names names' target : List Name} {part : Path.Part}
  {parts : List Path.Part} {f f' : Files} {p : Path} {content : List UInt8}

/-! ## Following a path again -/

/-- A step can be made from a directory only, and to a name only if the directory has it. -/
theorem step_eq_ok : step root names part = .ok names' ↔
    ∃ d, root.at? names = some d ∧ d.isDirectory = true ∧
      match part with
      | .here => names = names'
      | .parent => names.dropLast = names'
      | .name name =>
        name.length ≤ nameLimit ∧ (d.get? name).isSome = true ∧ names ++ [name] = names' := by
  unfold step
  cases root.at? names with
  | none => simp
  | some d =>
    cases hd : d.isDirectory with
    | false => simp [hd]
    | true =>
      cases part with
      | here => simp [hd]
      | parent => simp [hd]
      | name name =>
        by_cases long : name.length > nameLimit
        · simp [hd, long, Nat.not_le.mpr long]
        · cases there : (d.get? name).isSome <;> simp [hd, long, there, Nat.not_lt.mp long]

theorem step_put (free : ∀ old, root.at? target = some old → old.isDirectory = false)
    (h : step root names part = .ok names') :
    step (root.put target new) names part = .ok names' := by
  obtain ⟨d, found, directory, leads⟩ := step_eq_ok.mp h
  obtain ⟨d', found', extended⟩ := Node.directory_put free found directory new
  refine step_eq_ok.mpr ⟨d', found', extended.isDirectory, ?_⟩
  cases part with
  | here => exact leads
  | parent => exact leads
  | name name => exact ⟨leads.1, extended.names name leads.2.1, leads.2.2⟩

/-- A path leads where it led before something was put where no directory is. -/
theorem follow_put (free : ∀ old, root.at? target = some old → old.isDirectory = false)
    (h : parts.foldlM (step root) names = .ok names') :
    parts.foldlM (step (root.put target new)) names = .ok names' := by
  induction parts generalizing names with
  | nil => exact h
  | cons part parts ih =>
    rw [List.foldlM_cons, bind_eq_ok] at h ⊢
    obtain ⟨next, first, rest⟩ := h
    exact ⟨next, step_put free first, ih rest⟩

/-- The parts of a path behind where it is followed from. -/
def route (f : Files) (p : Path) : List Path.Part := (f.start p).2.map Path.Part.ofOctets

/-- A path that is followed at all, wherever it leads. -/
structure Followable (p : Path) : Prop where
  plain : 0 ∉ p.bytes
  nonempty : p.bytes ≠ []
  short : p.bytes.length < pathLimit

theorem Followable.locate (h : Followable p) (f : Files) :
    f.locate p = (f.route p).foldlM (step f.root) (f.start p).1 := by
  obtain ⟨plain, nonempty, short⟩ := h
  simp only [Files.locate, List.contains_iff_mem, plain, List.isEmpty_iff, nonempty,
    Nat.not_le.mpr short, if_false]
  rfl

theorem followable_of_locate (nonempty : p.bytes ≠ []) (plain : f.locate p ≠ .error .nulInName)
    (short : f.locate p ≠ .error .nameTooLong) : Followable p := by
  refine ⟨fun nul => plain ?_, nonempty, Nat.lt_of_not_le fun long => ?_⟩
  · simp [locate, nul]
  · by_cases nul : 0 ∈ p.bytes
    · exact plain (by simp [locate, nul])
    · exact short (by simp [locate, nul, nonempty, long])

theorem followable_of_located (h : f.locate p = .ok names) : Followable p := by
  refine followable_of_locate (f := f) (fun empty => ?_) (by simp [h]) (by simp [h])
  simp [locate, empty] at h

/-! ## Places for files -/

/-- A name that is looked for in vain is not in its directory. -/
theorem get?_of_missing {d : Node} {name : Name} (found : root.at? names = some d)
    (directory : d.isDirectory = true) (h : step root names (.name name) = .error .noEntry) :
    name.length ≤ nameLimit ∧ d.get? name = none := by
  simp only [step, found, directory, Bool.not_true, Bool.false_eq_true, if_false] at h
  split at h
  · cases h
  · next short =>
    split at h
    · cases h
    · next absent => exact ⟨Nat.not_lt.mp short, by simpa using absent⟩

/-- A file can be made under a name, in a directory that the path before the name leads to. -/
theorem locateNew_eq_ok (h : f.locateNew p = .ok names) :
    ∃ front above name d, f.route p = front ++ [.name name] ∧
      front.foldlM (step f.root) (f.start p).1 = .ok above ∧ f.root.at? above = some d ∧
      d.isDirectory = true ∧ names = above ++ [name] := by
  obtain ⟨above, leads, h⟩ := bind_eq_ok.mp h
  split at h
  · next name last =>
    obtain ⟨front, route⟩ := List.getLast?_eq_some_iff.mp last
    rw [route, List.dropLast_concat] at leads
    split at h
    · next directory =>
      simp only [Option.any_eq_true] at directory
      obtain ⟨d, found, directory⟩ := directory
      cases h
      exact ⟨front, above, name, d, route, leads, found, directory, rfl⟩
    · cases h
  · cases h

theorem route_of_empty (h : p.bytes = []) : f.route p = [.here] := by
  simp [route, start, h, Path.pieces, Path.Part.ofOctets]

theorem at?_append_singleton {d : Node} (found : root.at? names = some d) (name : Name) :
    root.at? (names ++ [name]) = d.get? name := by
  rw [Node.at?_append, found, Option.bind_some]
  exact Option.bind_fun_some _

theorem follow_append_singleton (front : List Path.Part) (part : Path.Part) :
    (front ++ [part]).foldlM (step root) names =
      front.foldlM (step root) names >>= fun above => step root above part := by
  simp [List.foldlM_append]

/-- The tree with an entry in it. -/
def put (f : Files) (names : List Name) (new : Node) : Files :=
  { f with root := f.root.put names new }

@[simp] theorem start_put (f : Files) (names : List Name) (new : Node) (p : Path) :
    (f.put names new).start p = f.start p := rfl

@[simp] theorem route_put (f : Files) (names : List Name) (new : Node) (p : Path) :
    (f.put names new).route p = f.route p := rfl

/-- Where a file is made nothing has been, and the path leads there once it is made. -/
theorem locate_put_new (missing : f.locate p = .error .noEntry)
    (h : f.locateNew p = .ok names) (new : Node) : (f.put names new).locate p = .ok names := by
  obtain ⟨front, above, name, d, route, leads, found, directory, rfl⟩ := locateNew_eq_ok h
  have nonempty : p.bytes ≠ [] := fun empty => by
    rw [route_of_empty empty] at route
    cases front <;> simp at route
  have followable : Followable p :=
    followable_of_locate (f := f) nonempty (by simp [missing]) (by simp [missing])
  have last : step f.root above (.name name) = .error .noEntry := by
    rw [followable.locate, route, follow_append_singleton, leads] at missing
    exact missing
  obtain ⟨short, absent⟩ := get?_of_missing found directory last
  have free : ∀ old, f.root.at? (above ++ [name]) = some old → old.isDirectory = false := by
    simp [at?_append_singleton found, absent]
  obtain ⟨d', found', extended⟩ := Node.directory_put free found directory new
  have there : (d'.get? name).isSome = true := by
    rw [← at?_append_singleton found', Node.at?_put]
    rfl
  rw [followable.locate, start_put, route_put, route, follow_append_singleton, bind_eq_ok]
  exact ⟨above, follow_put free leads,
    step_eq_ok.mpr ⟨d', found', extended.isDirectory, short, there, rfl⟩⟩

/-- A path to something that is no directory leads to what has taken its place. -/
theorem locate_put_old {n : Node} (h : f.locate p = .ok names) (found : f.root.at? names = some n)
    (file : n.isDirectory = false) (new : Node) : (f.put names new).locate p = .ok names := by
  have followable := followable_of_located h
  rw [followable.locate] at h ⊢
  refine follow_put (fun old there => ?_) h
  obtain rfl := Option.some.inj (found.symm.trans there)
  exact file

/-! ## Writing and reading -/

theorem get_of_located {n : Node} (located : f.locate p = .ok names)
    (found : f.root.at? names = some n) : f.get p = .ok n := by
  rw [get, bind_eq_ok]
  exact ⟨names, located, by rw [found]; rfl⟩

/-- A write makes a file where its path then leads, unless a device or a terminal takes what is
written. -/
theorem write_eq_ok (h : f.write p content = .ok f') :
    (f' = f ∧ ∃ n, f.get p = .ok n ∧ n.keeps = false) ∨
      ∃ names executable, f' = f.put names (.file content executable) ∧
        f'.locate p = .ok names := by
  unfold write at h
  split at h
  · next missing =>
    obtain ⟨names, place, made⟩ := bind_eq_ok.mp h
    cases made
    exact .inr ⟨names, false, rfl, locate_put_new missing place _⟩
  · cases h
  · next names located =>
    split at h
    · cases h
    · cases h
    · cases h
    · next found =>
      cases h
      exact .inl ⟨rfl, .device none, get_of_located located found, rfl⟩
    · next input found =>
      cases h
      exact .inl ⟨rfl, .terminal input, get_of_located located found, rfl⟩
    · next n other _ _ _ found =>
      cases h
      have file : n.isDirectory = false := by
        cases n with
        | directory entries => exact absurd rfl (other entries)
        | _ => rfl
      exact .inr ⟨names, n.isExecutable, rfl, locate_put_old located found file _⟩

/-- What has been written is what is read. -/
theorem read_write (h : f.write p content = .ok f') (kept : ∀ n, f.get p = .ok n → n.keeps = true) :
    f'.read p = .ok content := by
  obtain ⟨-, n, found, lost⟩ | ⟨names, executable, rfl, located⟩ := write_eq_ok h
  · simp [kept n found] at lost
  · have found : (f.put names (.file content executable)).get p = .ok (.file content executable) :=
      get_of_located located (Node.at?_put f.root names _)
    rw [read, found]
    rfl

end GuestWatch.Files
