import GuestWatch.Proofs.Options.CommandLine
import GuestWatch.Proofs.Text.Numerals

/-! # Written command lines

Each option that has a value is written with it in one argument, after an equals sign, each switch
that is on is written bare, and the guest stands after two hyphens on their own. What is written in
this way is read as the options that it was written of. The arguments before the two hyphens may
stand in any order in which the markers of one kind keep theirs, and values may have any characters.
-/
namespace GuestWatch

open Text

/-! ## What is written -/

namespace Options

/-- What one argument before the two hyphens says. -/
inductive Item
  | option (k : OptionKey) (value : Arg)
  | switch (s : Switch)
deriving DecidableEq, Repr

/-- An argument that names a switch. -/
def flag (s : Switch) : Arg := Utf8.encode ("--" ++ s.long)

/-- A number as a value. -/
def numeral (n : Nat) : Arg := Utf8.encode (Decimal.text n)

namespace Item

def name : Item → OptionName
  | .option k _ => .takesValue k
  | .switch s => .alone s

def word : Item → Arg
  | .option k value => joined k value
  | .switch s => flag s

end Item

end Options

namespace OptionName

def all : List OptionName := OptionKey.all.map .takesValue ++ Switch.all.map .alone

/-- Whether the name may be given more than once. -/
def IsRepeatable (n : OptionName) : Prop := ∃ m : Options.MarkerOption, n = .takesValue m.key

end OptionName

namespace Settings

open Options (Arg Item numeral)

/-- The values of an option, as they are written. -/
def values (s : Settings) : OptionKey → List Arg
  | .config => (s.config.map Path.bytes).toList
  | .kernel => (s.kernel.map Path.bytes).toList
  | .report => (s.report.map Path.bytes).toList
  | .timeout => (s.timeout.map (numeral ·.toNat)).toList
  | .lineTimeout => (s.lineTimeout.map (numeral ·.toNat)).toList
  | .baud => (s.baud.map (numeral ·.toNat)).toList
  | .emulator => (s.emulator.map Utf8.encode).toList
  | .machine => (s.machine.map Utf8.encode).toList
  | .expect => (s.expect.map Utf8.encode).toList
  | .passMarker => s.passMarkers.map Utf8.encode
  | .failMarker => s.failMarkers.map Utf8.encode

def isOn (s : Settings) : Switch → Bool
  | .quiet => s.quiet
  | .json => s.json
  | .help | .version => false

/-- What is written under a name. -/
def itemsOf (s : Settings) : OptionName → List Item
  | .takesValue k => (s.values k).map (.option k)
  | .alone f => if s.isOn f then [.switch f] else []

/-- All that is written before the two hyphens, in one of its orders. -/
def items (s : Settings) : List Item := OptionName.all.flatMap s.itemsOf

/-- No path among the values is empty. An empty one is no value. -/
def PathsNonempty (s : Settings) : Prop :=
  ∀ path : Path, some path ∈ [s.config, s.kernel, s.report] → path.bytes ≠ []

variable {s s' : Settings} {k : OptionKey} {n : OptionName} {i : Item} {a : Arg}

theorem name_of_mem_itemsOf (h : i ∈ s.itemsOf n) : i.name = n := by
  cases n with
  | takesValue k =>
    obtain ⟨a, -, rfl⟩ := List.mem_map.mp h
    rfl
  | alone f =>
    simp only [itemsOf] at h
    split at h
    · obtain rfl := List.mem_singleton.mp h
      rfl
    · cases h

theorem filter_itemsOf (m : OptionName) :
    (s.itemsOf m).filter (·.name = n) = if m = n then s.itemsOf m else [] := by
  split
  · next same =>
    rw [List.filter_eq_self]
    intro i hi
    simpa [same] using name_of_mem_itemsOf hi
  · next other =>
    rw [List.filter_eq_nil_iff]
    intro i hi
    simpa [name_of_mem_itemsOf hi] using other

theorem filter_flatMap_itemsOf (names : List OptionName) :
    (names.flatMap s.itemsOf).filter (·.name = n) = (names.filter (· = n)).flatMap s.itemsOf := by
  induction names with
  | nil => rfl
  | cons m names ih =>
    rw [List.flatMap_cons, List.filter_append, ih, filter_itemsOf]
    by_cases h : m = n <;> simp [h]

/-- The items of a name are together in the whole. -/
theorem filter_items (n : OptionName) : s.items.filter (·.name = n) = s.itemsOf n := by
  have once : OptionName.all.filter (· = n) = [n] := by
    rcases n with k | f
    · cases k <;> rfl
    · cases f <;> rfl
  rw [items, filter_flatMap_itemsOf, once, List.flatMap_singleton]

/-- All but markers is written once at most. -/
theorem length_itemsOf_le (h : ¬ n.IsRepeatable) : (s.itemsOf n).length ≤ 1 := by
  have single {α : Type} (o : Option α) : o.toList.length ≤ 1 := by cases o <;> simp
  rcases n with k | f
  · simp only [itemsOf, List.length_map]
    cases k with
    | passMarker => exact absurd ⟨.pass, rfl⟩ h
    | failMarker => exact absurd ⟨.fail, rfl⟩ h
    | _ => exact single _
  · simp only [itemsOf]
    split <;> simp

theorem mem_toList_map {α : Type} {f : α → Arg} {o : Option α} :
    a ∈ (o.map f).toList ↔ ∃ v, o = some v ∧ f v = a := by
  cases o <;> simp [eq_comm]

theorem eq_none_of_toList_map {α : Type} {f : α → Arg} {o : Option α}
    (h : (o.map f).toList = []) : o = none :=
  Option.map_eq_none_iff.mp (Option.toList_eq_nil_iff.mp h)

/-! ### Options are known from what is written of them -/

theorem eq_of_toList_map_eq {α : Type} {f : α → Arg} (hf : ∀ x y, f x = f y → x = y)
    {o o' : Option α} (h : (o.map f).toList = (o'.map f).toList) : o = o' := by
  cases o <;> cases o' <;> simp at h
  · rfl
  · exact congrArg some (hf _ _ h)

theorem eq_of_numeral_eq {m n : Nat} (h : numeral m = numeral n) : m = n :=
  Decimal.text_inj.mp (Utf8.encode_inj.mp h)

theorem eq_of_values_eq (values : ∀ k, s.values k = s'.values k)
    (isOn : ∀ f, s.isOn f = s'.isOn f) : s = s' := by
  have path : ∀ p q : Path, p.bytes = q.bytes → p = q := fun _ _ => congrArg Path.mk
  have text : ∀ t u : String, Utf8.encode t = Utf8.encode u → t = u := fun _ _ => Utf8.encode_inj.mp
  have word : ∀ m n : UInt64, numeral m.toNat = numeral n.toNat → m = n :=
    fun _ _ same => UInt64.toNat_inj.mp (eq_of_numeral_eq same)
  have rate : ∀ m n : UInt32, numeral m.toNat = numeral n.toNat → m = n :=
    fun _ _ same => UInt32.toNat_inj.mp (eq_of_numeral_eq same)
  have config := eq_of_toList_map_eq path (values .config)
  have kernel := eq_of_toList_map_eq path (values .kernel)
  have timeout := eq_of_toList_map_eq word (values .timeout)
  have lineTimeout := eq_of_toList_map_eq word (values .lineTimeout)
  have emulator := eq_of_toList_map_eq text (values .emulator)
  have machine := eq_of_toList_map_eq text (values .machine)
  have baud := eq_of_toList_map_eq rate (values .baud)
  have passMarkers := (List.map_inj_right text).mp (values .passMarker)
  have expect := eq_of_toList_map_eq text (values .expect)
  have failMarkers := (List.map_inj_right text).mp (values .failMarker)
  have report := eq_of_toList_map_eq path (values .report)
  cases s
  cases s'
  rw [mk.injEq]
  exact ⟨config, kernel, timeout, lineTimeout, emulator, machine, baud, passMarkers, expect,
    failMarkers, isOn .quiet, isOn .json, report⟩

theorem eq_of_itemsOf_eq (h : ∀ n, s.itemsOf n = s'.itemsOf n) : s = s' := by
  apply eq_of_values_eq
  · intro k
    refine (List.map_inj_right ?_).mp (h (.takesValue k))
    rintro a b ⟨⟩
    rfl
  · intro f
    have same := h (.alone f)
    simp only [itemsOf] at same
    cases hf : s.isOn f <;> cases hf' : s'.isOn f <;> simp [hf, hf'] at same ⊢

/-! ### One more item -/

/-- The second settings have one more item, after those that the first ones have under its name. -/
def Gains (s : Settings) (i : Item) (s' : Settings) : Prop :=
  ∀ n, s'.itemsOf n = s.itemsOf n ++ if n = i.name then [i] else []

theorem gains_option (values : ∀ j, s'.values j = s.values j ++ if j = k then [a] else [])
    (isOn : s'.isOn = s.isOn) : s.Gains (.option k a) s' := by
  intro n
  cases n with
  | takesValue j => by_cases h : j = k <;> simp [itemsOf, values, Item.name, h]
  | alone f => simp [itemsOf, isOn, Item.name]

theorem gains_switch {f : Switch} (off : s.isOn f = false)
    (isOn : ∀ g, s'.isOn g = (s.isOn g || g == f)) (values : s'.values = s.values) :
    s.Gains (.switch f) s' := by
  intro n
  cases n with
  | takesValue k => simp [itemsOf, values, Item.name]
  | alone g => by_cases h : g = f <;> simp [itemsOf, isOn, off, Item.name, h]

end Settings

/-! ## What is read -/

namespace Options

open Settings (PathsNonempty)

variable {s s' target : Settings} {k : OptionKey} {a : Arg} {i : Item}

theorem pathValue_bytes {p : Path} (h : p.bytes ≠ []) : pathValue k p.bytes = .ok p := by
  rw [pathValue, if_neg (by simpa using h)]

theorem textValue_encode (text : String) : textValue (Utf8.encode text) = .ok text :=
  textValue_eq_ok.mpr rfl

theorem wordValue_numeral (n : UInt64) : wordValue k (numeral n.toNat) = .ok n := by
  have fits : n.toNat ≤ Decimal.max64 := Nat.le_sub_one_of_lt n.toNat_lt
  simp only [wordValue, numeral, textValue_encode, Decimal.text, String.toList_ofList,
    Decimal.readUnsigned_digits fits, bind, Except.bind]
  simp

theorem baudValue_numeral (n : UInt32) : baudValue (numeral n.toNat) = .ok n := by
  have fits : n.toNat ≤ Decimal.max32 := Nat.le_sub_one_of_lt n.toNat_lt
  have small : n.toNat ≤ Nat.pow 2 63 - 1 := Nat.le_trans fits (by decide)
  simp only [baudValue, numeral, textValue_encode, Decimal.text, String.toList_ofList,
    Decimal.readSigned64_digits small, bind, Except.bind]
  rw [if_pos ⟨by omega, by omega⟩]
  simp

theorem not_isGiven (free : ¬ (OptionName.takesValue k).IsRepeatable → s.values k = []) :
    isGiven s k = false := by
  cases k with
  | passMarker | failMarker => rfl
  | _ => simpa [isGiven, Settings.values] using free (by rintro ⟨⟨⟩, ⟨⟩⟩)

/-- What is kept of a value is one more item. -/
theorem gains_of_map {α : Type} {x : Except Usage.Fault α} {v : α} {keep : α → Settings}
    (read : x = .ok v) (values : ∀ j, (keep v).values j = s.values j ++ if j = k then [a] else [])
    (isOn : (keep v).isOn = s.isOn) :
    ∃ s', x.map keep = .ok s' ∧ s.Gains (.option k a) s' :=
  ⟨keep v, congrArg (Except.map keep) read, Settings.gains_option values isOn⟩

/-- A value that is written of some settings is taken where it may be given. -/
theorem giveValue_gains (paths : target.PathsNonempty) (ha : a ∈ target.values k)
    (free : ¬ (OptionName.takesValue k).IsRepeatable → s.values k = []) :
    ∃ s', giveValue s k a = .ok s' ∧ s.Gains (.option k a) s' := by
  have given := not_isGiven free
  cases k with
  | config | kernel | report =>
    obtain ⟨p, hp, rfl⟩ := Settings.mem_toList_map.mp ha
    have unset := Settings.eq_none_of_toList_map (free (by rintro ⟨⟨⟩, ⟨⟩⟩))
    simp only [giveValue, given, Bool.false_eq_true, if_false]
    exact gains_of_map (pathValue_bytes (paths p (by simp [hp])))
      (fun j => by cases j <;> simp [Settings.values, unset]) rfl
  | timeout | lineTimeout =>
    obtain ⟨n, -, rfl⟩ := Settings.mem_toList_map.mp ha
    have unset := Settings.eq_none_of_toList_map (free (by rintro ⟨⟨⟩, ⟨⟩⟩))
    simp only [giveValue, given, Bool.false_eq_true, if_false]
    exact gains_of_map (wordValue_numeral n)
      (fun j => by cases j <;> simp [Settings.values, unset]) rfl
  | baud =>
    obtain ⟨n, -, rfl⟩ := Settings.mem_toList_map.mp ha
    have unset := Settings.eq_none_of_toList_map (free (by rintro ⟨⟨⟩, ⟨⟩⟩))
    simp only [giveValue, given, Bool.false_eq_true, if_false]
    exact gains_of_map (baudValue_numeral n)
      (fun j => by cases j <;> simp [Settings.values, unset]) rfl
  | emulator | machine | expect =>
    obtain ⟨t, -, rfl⟩ := Settings.mem_toList_map.mp ha
    have unset := Settings.eq_none_of_toList_map (free (by rintro ⟨⟨⟩, ⟨⟩⟩))
    simp only [giveValue, given, Bool.false_eq_true, if_false]
    exact gains_of_map (textValue_encode t)
      (fun j => by cases j <;> simp [Settings.values, unset]) rfl
  | passMarker | failMarker =>
    obtain ⟨t, -, rfl⟩ := List.mem_map.mp ha
    simp only [giveValue, given, Bool.false_eq_true, if_false]
    exact gains_of_map (textValue_encode t)
      (fun j => by cases j <;> simp [Settings.values]) rfl

namespace State

variable {st st' : State} {calledAs : String}

/-- Nothing is yet to be checked, and options may still come. -/
structure IsReady (st : State) : Prop where
  pending : st.pending = .nothing
  onlyGuest : st.onlyGuest = false
  guestSeen : st.guestSeen = false

theorem IsReady.settle (h : st.IsReady) : st.settle = .ok st := by
  rw [State.settle, h.pending]

theorem argument_flag (h : st.onlyGuest = false) (f : Switch) :
    argument calledAs st (flag f) = giveSwitch calledAs st f := by
  have word : flag f = hyphen :: hyphen :: Utf8.encode f.long := by cases f <;> rfl
  have long : (Utf8.encode f.long).isEmpty = false := by cases f <;> rfl
  have split : splitValue (Utf8.encode f.long) = (Utf8.encode f.long, none) := by cases f <;> rfl
  have name : (Utf8.decode? (Utf8.encode f.long)).bind OptionName.ofLong? = some (.alone f) := by
    rw [Utf8.decode?_eq_some.mpr rfl]
    cases f <;> rfl
  simp only [word, argument, h, long, split, State.long, name]
  simp

theorem giveSwitch_gains {f : Switch} (ready : st.IsReady) (on : target.isOn f = true)
    (off : st.settings.isOn f = false) : ∃ st', giveSwitch calledAs st f = .ok st' ∧ st'.IsReady ∧
      st.settings.Gains (.switch f) st'.settings := by
  have settled := ready.settle
  obtain ⟨pending, onlyGuest, guestSeen⟩ := ready
  cases f with
  | help | version => cases on
  | quiet =>
    have unset : st.settings.quiet = false := off
    refine ⟨{ st with settings := { st.settings with quiet := true } }, ?_,
      ⟨pending, onlyGuest, guestSeen⟩, Settings.gains_switch off (fun g => ?_) rfl⟩
    · simp [giveSwitch, settled, unset, bind, Except.bind, pure, Except.pure]
    · cases g <;> simp [Settings.isOn]
  | json =>
    have unset : st.settings.json = false := off
    refine ⟨{ st with settings := { st.settings with json := true } }, ?_,
      ⟨pending, onlyGuest, guestSeen⟩, Settings.gains_switch off (fun g => ?_) rfl⟩
    · simp [giveSwitch, settled, unset, bind, Except.bind, pure, Except.pure]
    · cases g <;> simp [Settings.isOn]

/-- One argument, read where nothing stands in its way. -/
theorem argument_gains (calledAs : String) (ready : st.IsReady) (paths : target.PathsNonempty)
    (hi : i ∈ target.itemsOf i.name)
    (free : ¬ i.name.IsRepeatable → st.settings.itemsOf i.name = []) :
    ∃ st', argument calledAs st i.word = .ok st' ∧ st'.IsReady ∧
      st.settings.Gains i st'.settings := by
  cases i with
  | option k a =>
    obtain ⟨_, ha, ⟨⟩⟩ := List.mem_map.mp hi
    obtain ⟨s', given, gains⟩ := giveValue_gains paths ha
      (fun single => List.map_eq_nil_iff.mp (free single))
    refine ⟨{ st with settings := s' }, ?_,
      ⟨ready.pending, ready.onlyGuest, ready.guestSeen⟩, gains⟩
    rw [Item.word, argument_joined ready.onlyGuest, giveOption, ready.settle]
    simp only [bind, Except.bind, given, pure, Except.pure]
  | switch f =>
    have unset := free (by rintro ⟨_, ⟨⟩⟩)
    simp only [Item.name, Settings.itemsOf] at hi unset
    rw [Item.word, argument_flag ready.onlyGuest]
    exact giveSwitch_gains ready (by simpa using hi) (by simpa using unset)

/-- What has been read and what is yet to be read make up what was written. So each argument is
one that may come, and in the end all is there. -/
theorem reads_items (calledAs : String) {items : List Item} (ready : st.IsReady)
    (paths : target.PathsNonempty)
    (whole : ∀ n, st.settings.itemsOf n ++ items.filter (·.name = n) = target.itemsOf n) :
    ∃ st', (items.map Item.word).foldlM (argument calledAs) st = .ok st' ∧ st'.IsReady ∧
      st'.settings = target := by
  induction items generalizing st with
  | nil =>
    refine ⟨st, rfl, ready, Settings.eq_of_itemsOf_eq fun n => ?_⟩
    simpa using whole n
  | cons i items ih =>
    have here := whole i.name
    simp only [List.filter_cons, decide_true, if_true] at here
    have hi : i ∈ target.itemsOf i.name := by simp [← here]
    obtain ⟨st₁, read, ready₁, gains⟩ := argument_gains calledAs ready paths hi
      (fun single => by
        have short := target.length_itemsOf_le single
        rw [← here, List.length_append, List.length_cons] at short
        exact List.length_eq_zero_iff.mp (by omega))
    obtain ⟨st', reads, ready', same⟩ := ih ready₁ (fun n => by
      rw [gains n, List.append_assoc, ← whole n, List.filter_cons]
      by_cases h : n = i.name
      · simp [h]
      · simp [h, Ne.symm h])
    refine ⟨st', ?_, ready', same⟩
    rw [List.map_cons, List.foldlM_cons, read]
    exact reads

/-- After the two hyphens comes the guest, whatever it looks like. -/
theorem reads_guest (calledAs : String) (ready : st.IsReady) (guest : String) :
    ∃ st₁, [separator, Utf8.encode guest].foldlM (argument calledAs) st = .ok st₁ ∧
      ∃ st', st₁.settle = .ok st' ∧ st'.settings = st.settings ∧ st'.guest = some guest := by
  have plain : ({ st with onlyGuest := true } : State).plain (Utf8.encode guest) = .ok
      { st with onlyGuest := true, pending := .guest (Utf8.encode guest), guestSeen := true } := by
    simp [State.plain, ready.pending, ready.guestSeen, State.settle, Except.map]
  have read : argument calledAs { st with onlyGuest := true } (Utf8.encode guest) = _ :=
    (argument_plain (.inr rfl)).trans plain
  refine ⟨_, bind_eq_ok.mpr ⟨_, argument_separator ready.onlyGuest, bind_eq_ok.mpr ⟨_, read, rfl⟩⟩,
    { st with onlyGuest := true, pending := .nothing, guestSeen := true, guest := some guest },
    ?_, rfl, rfl⟩
  simp only [State.settle, textValue_encode, Except.map]

end State

/-- There is but one order of a single thing. -/
theorem eq_of_perm_of_length_le {α : Type} : ∀ {l l' : List α}, l.Perm l' → l'.length ≤ 1 → l = l'
  | _, [], h, _ => h.eq_nil
  | _, [_], h, _ => h.eq_singleton

/-- Options that were written, in any order in which the markers of one kind keep theirs, are
read as they were. -/
theorem ofArgs_written {o : Options} {items : List Item} (calledAs : String)
    (paths : o.PathsNonempty) (all : items.Perm o.items)
    (order : ∀ m : MarkerOption, items.filter (·.name = .takesValue m.key) =
      o.items.filter (·.name = .takesValue m.key)) :
    ofArgs calledAs (items.map Item.word ++ [separator, Utf8.encode o.guest]) = .ok o := by
  have whole (n : OptionName) : items.filter (·.name = n) = o.itemsOf n := by
    rw [← Settings.filter_items]
    by_cases repeatable : n.IsRepeatable
    · obtain ⟨m, rfl⟩ := repeatable
      exact order m
    · have single := o.length_itemsOf_le repeatable
      rw [← Settings.filter_items] at single
      exact eq_of_perm_of_length_le (all.filter _) single
  have ready : State.initial.IsReady := ⟨rfl, rfl, rfl⟩
  have nothing (n : OptionName) : State.initial.settings.itemsOf n = [] := by
    rcases n with k | f
    · cases k <;> rfl
    · cases f <;> rfl
  obtain ⟨st, reads, ready, same⟩ := State.reads_items calledAs ready paths
    (fun n => by rw [nothing, List.nil_append, whole])
  obtain ⟨st₁, readsGuest, st', settled, kept, guest⟩ :=
    State.reads_guest calledAs ready o.guest
  rw [ofArgs, List.foldlM_append, reads]
  refine bind_eq_ok.mpr ⟨st₁, readsGuest, bind_eq_ok.mpr ⟨st', settled, ?_⟩⟩
  rw [guest, kept, same]
  rfl

/-- Values that look like options, an empty one, one with an equals sign and a blank, a path that is
not text, the largest time, and a guest that looks like a switch. -/
theorem ofArgs_written_disguised :
    ∃ (o : Options) (items : List Item), o.PathsNonempty ∧ items.Perm o.items ∧
      (∀ m : MarkerOption, items.filter (·.name = .takesValue m.key) =
        o.items.filter (·.name = .takesValue m.key)) ∧
      items.map Item.word = ["--timeout=18446744073709551615", "--pass-marker=-q", "--json",
        "--machine=a=b c", "--pass-marker=", "--fail-marker=--json"].map Utf8.encode ++
          [Utf8.encode "--report=-" ++ [0xFF]] ∧
      o.guest = "--quiet" ∧
      ofArgs "test-host" (items.map Item.word ++ [separator, Utf8.encode o.guest]) = .ok o := by
  let o : Options :=
    { timeout := some 18446744073709551615, machine := some "a=b c", passMarkers := ["-q", ""],
      failMarkers := ["--json"], json := true, report := some ⟨[0x2D, 0xFF]⟩, guest := "--quiet" }
  let time : Item := .option .timeout (numeral 18446744073709551615)
  let others : List Item :=
    [.option .passMarker (Utf8.encode "-q"), .switch .json, .option .machine (Utf8.encode "a=b c"),
      .option .passMarker [], .option .failMarker (Utf8.encode "--json"),
      .option .report [0x2D, 0xFF]]
  have number : numeral 18446744073709551615 = Utf8.encode "18446744073709551615" := by
    rw [numeral, Decimal.text_eq]
    rfl
  have paths : o.PathsNonempty := by
    intro path h
    have report : path = ⟨[0x2D, 0xFF]⟩ := by simpa [o] using h
    simp [report]
  have all : (time :: others).Perm o.items := List.Perm.cons time (by decide)
  have order : ∀ m : MarkerOption, (time :: others).filter (·.name = .takesValue m.key) =
      o.items.filter (·.name = .takesValue m.key) := by
    rintro (_ | _) <;> rfl
  refine ⟨o, time :: others, paths, all, order, ?_, rfl, ofArgs_written "test-host" paths all order⟩
  rw [List.map_cons, Item.word, number]
  decide

end Options

end GuestWatch
