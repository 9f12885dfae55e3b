import GuestWatch.Options.Parser
import GuestWatch.Proofs.Config.Accepted
import GuestWatch.Proofs.Text.Encoded

/-! # Markers on command lines

The two options for further markers may be repeated, and what they list are the values that a
command line gives them, from left to right. Other arguments neither add a marker nor move one, and
from two hyphens on their own on there are no options.
-/
namespace GuestWatch

open Text

/-! ## Arguments and what they are read as -/

namespace Options

open State (hyphen equalsSign splitValue)

/-- Two hyphens on their own. -/
def separator : Arg := Utf8.encode "--"

/-- An argument that names an option. -/
def named (k : OptionKey) : Arg := Utf8.encode ("--" ++ k.long)

/-- An argument that names an option and has a value after an equals sign. -/
def joined (k : OptionKey) (value : Arg) : Arg := named k ++ equalsSign :: value

/-- An argument that is a value or the guest, unless it comes after two hyphens on their own. A
single hyphen is one. -/
def IsPlain (a : Arg) : Prop := ∀ rest, a = hyphen :: rest → rest = []

/-- The options that list further markers. -/
inductive MarkerOption
  | pass | fail
deriving DecidableEq, Repr

namespace MarkerOption

def key : MarkerOption → OptionKey
  | .pass => .passMarker
  | .fail => .failMarker

def markers (m : MarkerOption) (s : Settings) : List String :=
  match m with
  | .pass => s.passMarkers
  | .fail => s.failMarkers

/-- The values that a command line gives one of the two options, from left to right. -/
inductive Lists (m : MarkerOption) : List Arg → List Arg → Prop
  | done : Lists m [] []
  | joined {value : Arg} {words values : List Arg} (h : Lists m words values) :
    Lists m (joined m.key value :: words) (value :: values)
  | apart {value : Arg} {words values : List Arg} (plain : IsPlain value)
    (h : Lists m words values) : Lists m (named m.key :: value :: words) (value :: values)
  | other {word : Arg} {words values : List Arg} (separator : word ≠ separator)
    (named : word ≠ named m.key) (joined : ∀ value, word ≠ joined m.key value)
    (h : Lists m words values) : Lists m (word :: words) values
  | guest {words : List Arg} : Lists m (separator :: words) []

end MarkerOption

theorem textValue_eq_ok {a : Arg} {text : String} :
    textValue a = .ok text ↔ Utf8.encode text = a := by
  rw [← Utf8.decode?_eq_some]
  cases h : Utf8.decode? a <;> simp [textValue, h]

theorem named_eq (k : OptionKey) : named k = hyphen :: hyphen :: Utf8.encode k.long := by
  simp only [named, Utf8.encode, String.toList_append, Text.Utf8.encodeChars_append]
  rfl

theorem IsPlain.ne_named {a : Arg} (h : IsPlain a) (k : OptionKey) (rest : Arg) :
    a ≠ named k ++ rest := by
  rintro rfl
  rw [named_eq] at h
  cases h _ rfl

theorem IsPlain.ne_separator {a : Arg} (h : IsPlain a) : a ≠ separator := by
  rintro rfl
  cases h _ rfl

theorem equalsSign_not_mem_long (k : OptionKey) : equalsSign ∉ Utf8.encode k.long := by
  cases k <;> decide

theorem ofLong?_long (k : OptionKey) : OptionName.ofLong? k.long = some (.takesValue k) := by
  cases k <;> rfl

theorem long_of_ofLong? {k : OptionKey} {name : String}
    (h : OptionName.ofLong? name = some (.takesValue k)) : k.long = name := by
  simp only [OptionName.ofLong?, Option.orElse_eq_orElse, Option.orElse_eq_or,
    Option.or_eq_some_iff, Option.map_eq_some_iff] at h
  obtain ⟨k, found, ⟨⟩⟩ | ⟨-, _, -, ⟨⟩⟩ := h
  simpa using List.find?_some found

theorem short?_of_ofShort? {k : OptionKey} {letter : Char}
    (h : OptionName.ofShort? letter = some (.takesValue k)) : k.short? = some letter := by
  simp only [OptionName.ofShort?, Option.orElse_eq_orElse, Option.orElse_eq_or,
    Option.or_eq_some_iff, Option.map_eq_some_iff] at h
  obtain ⟨k, found, ⟨⟩⟩ | ⟨-, _, -, ⟨⟩⟩ := h
  simpa using List.find?_some found

/-- An argument is what it is split into, with the equals sign where there is a value. -/
theorem splitValue_eq (a : Arg) : a = (splitValue a).1 ++
    match (splitValue a).2 with
    | none => []
    | some value => equalsSign :: value := by
  induction a with
  | nil => rfl
  | cons b a ih =>
    unfold splitValue
    split
    · next sign => rw [sign]; rfl
    · rw [List.cons_append, ← ih]

theorem splitValue_append {name : Arg} (h : equalsSign ∉ name) (rest : Arg) :
    splitValue (name ++ rest) = (name ++ (splitValue rest).1, (splitValue rest).2) := by
  induction name with
  | nil => rfl
  | cons b name ih =>
    simp only [List.mem_cons, not_or] at h
    simp [splitValue, ih h.2, Ne.symm h.1]

theorem wellFormedStart_of_nil {bytes : List UInt8} (h : (Utf8.wellFormedStart bytes).1 = []) :
    (Utf8.wellFormedStart bytes).2 = bytes := by
  unfold Utf8.wellFormedStart at h ⊢
  cases hc : Utf8.decodeChars bytes with
  | nil => rfl
  | cons c cs =>
    simp only [hc, Utf8.splitChars] at h ⊢
    split
    · next code => simp [code] at h
    · rfl

namespace State

variable {calledAs : String} {st st' : State} {k : OptionKey} {a : Arg}

/-- An argument that names an option, with what follows the name. -/
theorem argument_named {value : Option Arg} {rest : Arg} (h : st.onlyGuest = false)
    (hv : splitValue rest = ([], value)) :
    argument calledAs st (named k ++ rest) = st.giveOption k value := by
  have split : splitValue (Utf8.encode k.long ++ rest) = (Utf8.encode k.long, value) := by
    simp [splitValue_append (equalsSign_not_mem_long k), hv]
  have name : (Utf8.decode? (Utf8.encode k.long)).bind OptionName.ofLong? =
      some (.takesValue k) := by
    rw [Utf8.decode?_eq_some.mpr rfl]
    exact ofLong?_long k
  have long : (Utf8.encode k.long ++ rest).isEmpty = false := by
    cases k <;> rfl
  simp only [named_eq, List.cons_append, argument, h, long, split, State.long, name]
  simp

theorem argument_apart (h : st.onlyGuest = false) :
    argument calledAs st (named k) = st.giveOption k none := by
  have nothing : splitValue [] = ([], none) := rfl
  simpa using argument_named (k := k) h nothing

theorem argument_joined (h : st.onlyGuest = false) :
    argument calledAs st (joined k a) = st.giveOption k (some a) :=
  argument_named h (by simp [splitValue])

theorem argument_separator (h : st.onlyGuest = false) :
    argument calledAs st separator = .ok { st with onlyGuest := true } := by
  have word : separator = [hyphen, hyphen] := rfl
  simp [word, argument, h]

theorem argument_plain (h : IsPlain a ∨ st.onlyGuest = true) :
    argument calledAs st a = st.plain a := by
  unfold argument
  split
  · next first second rest =>
    rw [if_pos]
    rcases h with plain | only
    · have first_ne : first ≠ hyphen := by
        rintro rfl
        exact absurd (plain _ rfl) (List.cons_ne_nil _ _)
      simp [first_ne]
    · simp [only]
  · rfl

/-- What an argument can be, until the arguments are for the guest only. -/
theorem argument_cases (h : st.onlyGuest = false) (read : argument calledAs st a = .ok st') :
    (IsPlain a ∧ st.plain a = .ok st') ∨
    (a = separator ∧ st' = { st with onlyGuest := true }) ∨
    (∃ letters tail, (letters = [] → tail ≠ []) ∧ st.shorts calledAs tail letters = .ok st') ∨
    ∃ rest, a = hyphen :: hyphen :: rest ∧
      st.long calledAs (splitValue rest).1 (splitValue rest).2 = .ok st' := by
  unfold argument at read
  split at read
  · next first second rest =>
    simp only [h, Bool.false_or, decide_eq_true_eq] at read
    split at read
    · next first_ne =>
      exact .inl ⟨fun _ same => absurd (List.cons.inj same).1 first_ne, read⟩
    · next first_eq =>
      obtain rfl := Decidable.not_not.mp first_eq
      split at read
      · next second_ne =>
        refine .inr (.inr (.inl ⟨_, _, fun none => ?_, read⟩))
        rw [wellFormedStart_of_nil none]
        exact List.cons_ne_nil second rest
      · next second_eq =>
        obtain rfl := Decidable.not_not.mp second_eq
        split at read
        · next empty =>
          cases read
          refine .inr (.inl ⟨?_, rfl⟩)
          rw [List.isEmpty_iff.mp empty]
          rfl
        · exact .inr (.inr (.inr ⟨rest, rfl, read⟩))
  · next short =>
    refine .inl ⟨?_, read⟩
    rintro (_ | ⟨second, rest⟩) rfl
    · rfl
    · exact absurd rfl (short hyphen second rest)

/-- The option whose value is yet to come. -/
def awaits? (st : State) : Option OptionKey :=
  match st.pending with
  | .option k none => some k
  | _ => none

/-! ## What an argument adds -/

theorem giveValue_markers (m : MarkerOption) {s s' : Settings} (h : giveValue s k a = .ok s') :
    (m.markers s').map Utf8.encode =
      (m.markers s).map Utf8.encode ++ if k = m.key then [a] else [] := by
  unfold giveValue at h
  split at h
  · cases h
  cases k with
  | passMarker | failMarker =>
    obtain ⟨v, hv, rfl⟩ := map_eq_ok.mp h
    cases m <;> simp [MarkerOption.markers, MarkerOption.key, textValue_eq_ok.mp hv]
  | _ =>
    obtain ⟨v, -, rfl⟩ := map_eq_ok.mp h
    cases m <;> simp [MarkerOption.markers, MarkerOption.key]

theorem settle_eq_ok (h : st.settle = .ok st') :
    st.awaits? = none ∧ st'.pending = .nothing ∧ st'.onlyGuest = st.onlyGuest := by
  unfold settle at h
  split at h
  · next pending =>
    cases h
    exact ⟨by simp [awaits?, pending], pending, rfl⟩
  · cases h
  · next pending =>
    obtain ⟨s, -, rfl⟩ := map_eq_ok.mp h
    exact ⟨by simp [awaits?, pending], rfl, rfl⟩
  · next pending =>
    obtain ⟨s, -, rfl⟩ := map_eq_ok.mp h
    exact ⟨by simp [awaits?, pending], rfl, rfl⟩

/-! Where a value is yet to come, nothing else can be read. -/

theorem free_of_giveOption {value : Option Arg} (h : st.giveOption k value = .ok st') :
    st.awaits? = none := by
  obtain ⟨st₁, settled, -⟩ := bind_eq_ok.mp h
  exact (settle_eq_ok settled).1

theorem free_of_giveSwitch {s : Switch} (h : giveSwitch calledAs st s = .ok st') :
    st.awaits? = none := by
  obtain ⟨st₁, settled, -⟩ := bind_eq_ok.mp h
  exact (settle_eq_ok settled).1

theorem free_of_shorts {letters : List Char} {tail : Arg} (some : letters = [] → tail ≠ [])
    (h : st.shorts calledAs tail letters = .ok st') : st.awaits? = none := by
  unfold shorts at h
  split at h
  · simp [List.isEmpty_iff, some] at h
  · split at h
    · cases h
    · exact free_of_giveOption h
    · obtain ⟨st₁, switched, -⟩ := bind_eq_ok.mp h
      exact free_of_giveSwitch switched

theorem free_of_long {name : Arg} {value : Option Arg}
    (h : st.long calledAs name value = .ok st') : st.awaits? = none := by
  unfold long at h
  split at h
  · cases h
  · exact free_of_giveOption h
  · split at h
    · cases h
    · exact free_of_giveSwitch h

/-- A value that is yet to come is the next argument. -/
theorem argument_of_awaits (h : st.onlyGuest = false) (ht : st.awaits? = some k)
    (read : argument calledAs st a = .ok st') :
    (a = separator ∧ st' = { st with onlyGuest := true }) ∨
    (IsPlain a ∧ st' = { st with pending := .option k (some a) }) := by
  have not_free : st.awaits? ≠ none := by simp [ht]
  obtain ⟨plain, read⟩ | separator | ⟨letters, tail, some, read⟩ | ⟨rest, -, read⟩ :=
    argument_cases h read
  · have pending : st.pending = .option k none := by
      unfold awaits? at ht
      split at ht
      · next pending =>
        cases ht
        exact pending
      · cases ht
    simp only [State.plain, pending, h] at read
    cases read
    exact .inr ⟨plain, by rw [h]⟩
  · exact .inl separator
  · exact absurd (free_of_shorts some read) not_free
  · exact absurd (free_of_long read) not_free

end State

namespace MarkerOption

open State

variable {m : MarkerOption} {calledAs : String} {st st₁ st' : State} {k : OptionKey} {a : Arg}

/-- The values that have been read for one of the two options, checked or not. -/
def given (m : MarkerOption) (st : State) : List Arg :=
  (m.markers st.settings).map Utf8.encode ++
    match st.pending with
    | .option k (some a) => if k = m.key then [a] else []
    | _ => []

/-- A value that has come counts for its option. -/
theorem given_of_awaits (h : st.awaits? = some k) :
    m.given { st with pending := .option k (some a) } =
      m.given st ++ if k = m.key then [a] else [] := by
  unfold awaits? at h
  split at h
  · next pending => simp [given, pending]
  · cases h

/-- What reading adds to the values of one of the two options, and the option whose value it leaves
to come. -/
structure Adds (m : MarkerOption) (st : State) (values : List Arg) (awaited : Option OptionKey)
    (st' : State) : Prop where
  given : m.given st' = m.given st ++ values
  awaits : st'.awaits? = awaited
  onlyGuest : st'.onlyGuest = st.onlyGuest

theorem adds_settle (h : st.settle = .ok st') : m.Adds st [] none st' := by
  obtain ⟨-, settled, onlyGuest⟩ := settle_eq_ok h
  refine ⟨?_, by simp [awaits?, settled], onlyGuest⟩
  unfold settle at h
  split at h
  · cases h
    exact (List.append_nil _).symm
  · cases h
  · next k a pending =>
    obtain ⟨s, value, rfl⟩ := map_eq_ok.mp h
    simp [given, pending, giveValue_markers m value]
  · next a pending =>
    obtain ⟨s, value, rfl⟩ := map_eq_ok.mp h
    simp [given, pending]

/-- What is checked first adds nothing. -/
theorem Adds.of_settle {values : List Arg} {awaited : Option OptionKey} (h : st.settle = .ok st₁)
    (adds : m.Adds st₁ values awaited st') : m.Adds st values awaited st' := by
  have settled := adds_settle (m := m) h
  exact ⟨by rw [adds.given, settled.given, List.append_nil], adds.awaits,
    adds.onlyGuest.trans settled.onlyGuest⟩

theorem adds_giveOption {value : Option Arg} (h : st.giveOption k value = .ok st') :
    m.Adds st (if k = m.key then value.toList else []) (if value = none then some k else none)
      st' := by
  obtain ⟨st₁, settled, h⟩ := bind_eq_ok.mp h
  refine .of_settle settled ?_
  obtain ⟨-, pending, -⟩ := settle_eq_ok settled
  cases value with
  | none =>
    cases h
    exact ⟨by simp [given, pending], rfl, rfl⟩
  | some a =>
    obtain ⟨s, value, h⟩ := bind_eq_ok.mp h
    cases h
    exact ⟨by simp [given, pending, giveValue_markers m value], by simp [awaits?, pending], rfl⟩

theorem adds_giveSwitch {s : Switch} (h : giveSwitch calledAs st s = .ok st') :
    m.Adds st [] none st' := by
  obtain ⟨st₁, settled, h⟩ := bind_eq_ok.mp h
  refine .of_settle settled ?_
  obtain ⟨-, pending, -⟩ := settle_eq_ok settled
  cases s with
  | help | version => cases h
  | quiet | json =>
    dsimp only at h
    split at h
    · cases h
    · cases h
      exact ⟨by cases m <;> simp [given, markers, pending], by simp [awaits?, pending], rfl⟩

/-- What is read is of no concern to one of the two options. -/
def Skips (m : MarkerOption) (st st' : State) : Prop :=
  ∃ awaited, awaited ≠ some m.key ∧ m.Adds st [] awaited st'

theorem skips_giveOption {value : Option Arg} (other : k ≠ m.key)
    (h : st.giveOption k value = .ok st') : m.Skips st st' := by
  have adds := adds_giveOption (m := m) h
  rw [if_neg other] at adds
  refine ⟨_, ?_, adds⟩
  split
  · simpa using other
  · simp

/-- Neither of the two options has a letter of its own. -/
theorem ne_key_of_ofShort? {c : Char} (h : OptionName.ofShort? c = some (.takesValue k)) :
    k ≠ m.key := by
  have letter := short?_of_ofShort? h
  rintro rfl
  cases m <;> cases letter

theorem skips_shorts {tail : Arg} {letters : List Char} (ht : st.awaits? = none)
    (h : st.shorts calledAs tail letters = .ok st') : m.Skips st st' := by
  induction letters generalizing st with
  | nil =>
    unfold shorts at h
    split at h
    · cases h
      exact ⟨none, by simp, by simp, ht, rfl⟩
    · cases h
  | cons c rest ih =>
    unfold shorts at h
    split at h
    · cases h
    · next k name => exact skips_giveOption (ne_key_of_ofShort? name) h
    · obtain ⟨st₁, switched, h⟩ := bind_eq_ok.mp h
      have first := adds_giveSwitch (m := m) switched
      obtain ⟨awaited, other, adds⟩ := ih first.awaits h
      exact ⟨awaited, other, by simp [adds.given, first.given], adds.awaits,
        adds.onlyGuest.trans first.onlyGuest⟩

theorem skips_long {rest : Arg} (hn : hyphen :: hyphen :: rest ≠ named m.key)
    (hj : ∀ value, hyphen :: hyphen :: rest ≠ joined m.key value)
    (h : st.long calledAs (splitValue rest).1 (splitValue rest).2 = .ok st') :
    m.Skips st st' := by
  unfold long at h
  split at h
  · cases h
  · next k name =>
    obtain ⟨text, decoded, known⟩ := Option.bind_eq_some_iff.mp name
    refine skips_giveOption ?_ h
    rintro rfl
    rw [← long_of_ofLong? known, Utf8.decode?_eq_some] at decoded
    have whole := splitValue_eq rest
    rw [← decoded] at whole
    cases hv : (splitValue rest).2 with
    | none => exact hn (by rw [whole, hv, named_eq, List.append_nil])
    | some value => exact hj value (by rw [whole, hv, joined, named_eq]; rfl)
  · split at h
    · cases h
    · exact ⟨none, by simp, adds_giveSwitch h⟩

theorem adds_plain (ht : st.awaits? = none ∨ st.onlyGuest = true) (h : st.plain a = .ok st') :
    st.awaits? = none ∧ m.Adds st [] none st' := by
  unfold plain at h
  split at h
  · next k pending only =>
    simp [awaits?, pending, only] at ht
  · split at h
    · cases h
    · obtain ⟨st₁, settled, rfl⟩ := map_eq_ok.mp h
      obtain ⟨free, pending, -⟩ := settle_eq_ok settled
      refine ⟨free, .of_settle settled ?_⟩
      exact ⟨by simp [given, pending], rfl, rfl⟩

theorem skips_argument (h : st.onlyGuest = false) (ht : st.awaits? = none) (hs : a ≠ separator)
    (hn : a ≠ named m.key) (hj : ∀ value, a ≠ joined m.key value)
    (accepted : argument calledAs st a = .ok st') : m.Skips st st' := by
  obtain ⟨-, read⟩ | ⟨separator, -⟩ | ⟨letters, tail, -, read⟩ | ⟨rest, rfl, read⟩ :=
    argument_cases h accepted
  · exact ⟨none, by simp, (adds_plain (.inl ht) read).2⟩
  · exact absurd separator hs
  · exact skips_shorts ht read
  · exact skips_long hn hj read

/-! ## Command lines -/

/-- Once all further arguments are for the guest there are no more values. -/
theorem given_of_onlyGuest {args : List Arg} (h : st.onlyGuest = true)
    (accepted : args.foldlM (argument calledAs) st = .ok st₁) (settled : st₁.settle = .ok st') :
    st.awaits? = none ∧ m.given st' = m.given st := by
  induction args generalizing st with
  | nil =>
    cases accepted
    exact ⟨(settle_eq_ok settled).1, by simpa using (adds_settle settled).given⟩
  | cons a args ih =>
    obtain ⟨st₂, read, reads⟩ := bind_eq_ok.mp accepted
    rw [argument_plain (.inr h)] at read
    obtain ⟨free, adds⟩ := adds_plain (m := m) (.inr h) read
    obtain ⟨-, same⟩ := ih (adds.onlyGuest.trans h) reads
    exact ⟨free, by rw [same, adds.given, List.append_nil]⟩

/-- What reading on adds is what the command line lists. If a value is yet to come, then the next
argument is one. -/
theorem lists_of_reads {args : List Arg} (h : st.onlyGuest = false)
    (accepted : args.foldlM (argument calledAs) st = .ok st₁) (settled : st₁.settle = .ok st') :
    (st.awaits? ≠ some m.key → ∃ values, m.Lists args values ∧
      m.given st' = m.given st ++ values) ∧
    (st.awaits? = some m.key → ∃ value rest values, args = value :: rest ∧ IsPlain value ∧
      m.Lists rest values ∧ m.given st' = m.given st ++ value :: values) := by
  induction args generalizing st with
  | nil =>
    cases accepted
    refine ⟨fun _ => ⟨[], .done, by simpa using (adds_settle settled).given⟩, fun awaited => ?_⟩
    rw [(settle_eq_ok settled).1] at awaited
    cases awaited
  | cons a args ih =>
    obtain ⟨st₂, read, reads⟩ := bind_eq_ok.mp accepted
    cases awaited : st.awaits? with
    | none =>
      refine ⟨fun _ => ?_, nofun⟩
      by_cases hs : a = separator
      · subst hs
        rw [argument_separator h] at read
        cases read
        obtain ⟨-, same⟩ := given_of_onlyGuest (m := m) rfl reads settled
        exact ⟨[], .guest, by rw [same, List.append_nil]; rfl⟩
      by_cases hn : a = named m.key
      · subst hn
        rw [argument_apart h] at read
        have adds := adds_giveOption (m := m) read
        obtain ⟨value, rest, values, rfl, plain, lists, same⟩ :=
          (ih (adds.onlyGuest.trans h) reads).2 (by simp [adds.awaits])
        exact ⟨_, .apart plain lists, by simp [same, adds.given]⟩
      by_cases hj : ∃ value, a = joined m.key value
      · obtain ⟨value, rfl⟩ := hj
        rw [argument_joined h] at read
        have adds := adds_giveOption (m := m) read
        obtain ⟨values, lists, same⟩ :=
          (ih (adds.onlyGuest.trans h) reads).1 (by simp [adds.awaits])
        exact ⟨_, .joined lists, by simp [same, adds.given]⟩
      · have hj := not_exists.mp hj
        obtain ⟨k, other, adds⟩ := skips_argument h awaited hs hn hj read
        obtain ⟨values, lists, same⟩ :=
          (ih (adds.onlyGuest.trans h) reads).1 (by rwa [adds.awaits])
        exact ⟨values, .other hs hn hj lists, by simp [same, adds.given]⟩
    | some k =>
      obtain ⟨-, rfl⟩ | ⟨plain, rfl⟩ := argument_of_awaits h awaited read
      · have free := (given_of_onlyGuest (m := m) rfl reads settled).1
        exact absurd (awaited.symm.trans free) (Option.some_ne_none k)
      · obtain ⟨values, lists, same⟩ :=
          (@ih { st with pending := .option k (some a) } h reads).1 nofun
        rw [given_of_awaits awaited] at same
        constructor
        · intro other
          have other : k ≠ m.key := fun same => other (congrArg some same)
          refine ⟨values, .other plain.ne_separator ?_ (plain.ne_named _ <| _ :: ·) lists, ?_⟩
          · simpa using plain.ne_named m.key []
          · simpa [other] using same
        · intro this
          obtain rfl := Option.some.inj this
          exact ⟨a, args, values, rfl, plain, lists, by simpa using same⟩

end MarkerOption

/-- The markers of the options are those that the command line lists, in their order there. -/
theorem lists_of_ofArgs {calledAs : String} {args : List Arg} {o : Options}
    (h : ofArgs calledAs args = .ok o) (m : MarkerOption) :
    m.Lists args ((m.markers o.toSettings).map Utf8.encode) := by
  obtain ⟨st₁, reads, h⟩ := bind_eq_ok.mp h
  obtain ⟨st', settled, h⟩ := bind_eq_ok.mp h
  have options : State.initial.onlyGuest = false := rfl
  obtain ⟨values, lists, same⟩ :=
    (MarkerOption.lists_of_reads (m := m) options reads settled).1 nofun
  have none_given : m.given .initial = [] := by cases m <;> rfl
  have kept : m.given st' = (m.markers st'.settings).map Utf8.encode := by
    simp [MarkerOption.given, (State.settle_eq_ok settled).2.1]
  rw [none_given, kept, List.nil_append] at same
  rw [← same] at lists
  split at h
  · cases h
    exact lists
  · cases h

end Options

end GuestWatch
