import GuestWatch.Json.Schema
import GuestWatch.Proofs.Config.Accepted
import GuestWatch.Proofs.Json.Documents
import Mathlib.Data.List.Forall2
import Mathlib.Data.List.Nodup

/-! # Records and the data that fit them

A datum fits a record when it says of each component either what its value is or nothing; then the
component is that of another record. Reading a record finds the data that fit it, and no others.
-/
namespace GuestWatch.Json

/-- A part of a record: its name, which data say which values of it, and its value in a record. -/
structure Component (α : Type) where
  {β : Type}
  name : String
  fits : Datum → β → Prop
  get : α → β

/-- The components that a datum gives: by name, none of them twice and no others, or the first ones
in order. -/
inductive Gives (names : List String) : Datum → List (String × Datum) → Prop
  | object {members : List (String × Datum)} (known : ∀ m ∈ members, m.1 ∈ names)
    (once : (members.map Prod.fst).Nodup) : Gives names (.object members) members
  | list {items : List Datum} (short : items.length ≤ names.length) :
    Gives names (.list items) (names.zip items)

variable {α : Type}

/-- A component is as it is given, and where it is not given it is that of `base`. -/
def Component.Laid (k : Component α) (given : List (String × Datum)) (base a : α) : Prop :=
  match given.lookup k.name with
  | some d => k.fits d (k.get a)
  | none => k.get a = k.get base

/-- A datum, laid over `base`, stands for the record `a`. -/
def Fits (components : List (Component α)) (base : α) (d : Datum) (a : α) : Prop :=
  ∃ given, Gives (components.map (·.name)) d given ∧ ∀ k ∈ components, k.Laid given base a

/-! ## Slots -/

/-- A component that can be read, as something that stands for its value, and put into a record. -/
structure Slot (α : Type) extends Component α where
  {γ : Type}
  read : Tree → Except Fault γ
  value : γ → β
  set : β → α → α
  reads : ∀ {t : Tree} {v : β},
    (∃ g, read t = .ok g ∧ value g = v) ↔ ∃ d, t.datum? = some d ∧ fits d v
  get_set : ∀ (v : β) (a : α), get (set v a) = v

def Slot.field (k : Slot α) : Field α :=
  ⟨k.name, fun t a => (k.read t).map fun g => k.set (k.value g) a⟩

/-- What follows when a slot has been read goes on with the value in place. -/
theorem Slot.read_bind {k : Slot α} {t : Tree} {a b : α} {f : α → Except Fault α} :
    k.field.read t a >>= f = .ok b ↔
      ∃ d v, t.datum? = some d ∧ k.fits d v ∧ f (k.set v a) = .ok b := by
  simp only [bind_eq_ok, Slot.field, map_eq_ok]
  constructor
  · rintro ⟨_, ⟨g, hg, rfl⟩, h⟩
    obtain ⟨d, hd, fits⟩ := k.reads.mp ⟨g, hg, rfl⟩
    exact ⟨d, k.value g, hd, fits, h⟩
  · rintro ⟨d, v, hd, fits, h⟩
    obtain ⟨g, hg, rfl⟩ := k.reads.mpr ⟨d, hd, fits⟩
    exact ⟨_, ⟨g, hg, rfl⟩, h⟩

/-- The slots of a record: they have names of their own, leave each other alone and leave nothing
out. -/
structure Layout (α : Type) where
  slots : List (Slot α)
  names_nodup : (slots.map (·.name)).Nodup
  get_set_ne : ∀ j ∈ slots, ∀ k ∈ slots, j.name ≠ k.name →
    ∀ (v : k.β) (a : α), j.get (k.set v a) = j.get a
  ext : ∀ {a b : α}, (∀ k ∈ slots, k.get a = k.get b) → a = b

namespace Layout

variable {l : Layout α} {k : Slot α} {given : List (String × Datum)} {base a b : α} {d : Datum}

def names (l : Layout α) : List String := l.slots.map (·.name)

def fields (l : Layout α) : List (Field α) := l.slots.map (·.field)

def components (l : Layout α) : List (Component α) := l.slots.map (·.toComponent)

/-- The components of `a` are as they are given, and the others are those of `base`. -/
def Overlays (l : Layout α) (given : List (String × Datum)) (base a : α) : Prop :=
  ∀ k ∈ l.slots, k.Laid given base a

theorem eq_of_name_eq {j : Slot α} (hj : j ∈ l.slots) (hk : k ∈ l.slots) (h : j.name = k.name) :
    j = k :=
  List.inj_on_of_nodup_map l.names_nodup hj hk h

theorem overlays_nil : l.Overlays [] base a ↔ a = base := by
  constructor
  · intro h
    exact l.ext h
  · rintro rfl k hk
    rfl

/-- Components can be laid over a record one by one. -/
theorem overlays_cons (hk : k ∈ l.slots) (fresh : ∀ m ∈ given, m.1 ≠ k.name) :
    l.Overlays ((k.name, d) :: given) base a ↔
      ∃ v, k.fits d v ∧ l.Overlays given (k.set v base) a := by
  have absent : given.lookup k.name = none := by
    rw [List.lookup_eq_none_iff]
    intro m hm
    simpa using (fresh m hm).symm
  have other {j : Slot α} (hj : j ∈ l.slots) (h : j.name ≠ k.name) (v : k.β) :
      j.Laid ((k.name, d) :: given) base a ↔ j.Laid given (k.set v base) a := by
    have different : (j.name == k.name) = false := by simpa using h
    simp only [Component.Laid, List.lookup_cons, different, l.get_set_ne j hj k hk h]
  constructor
  · intro h
    have here := h k hk
    simp only [Component.Laid, List.lookup_cons_self] at here
    refine ⟨k.get a, here, ?_⟩
    intro j hj
    by_cases same : j.name = k.name
    · obtain rfl := eq_of_name_eq hj hk same
      simp only [Component.Laid, absent, j.get_set]
    · exact (other hj same _).mp (h j hj)
  · rintro ⟨v, fits, h⟩ j hj
    by_cases same : j.name = k.name
    · obtain rfl := eq_of_name_eq hj hk same
      have here := h j hj
      simp only [Component.Laid, absent, j.get_set] at here
      simpa only [Component.Laid, List.lookup_cons_self, here] using fits
    · exact (other hj same v).mpr (h j hj)

/-! ## Reading records -/

theorem find?_fields {key : String} : (l.fields.find? fun field => field.name == key) =
    (l.slots.find? fun k => k.name == key).map (·.field) := by
  rw [fields, List.find?_map]
  rfl

theorem find?_slots (hk : k ∈ l.slots) : (l.slots.find? fun j => j.name == k.name) = some k := by
  rcases hj : l.slots.find? fun j => j.name == k.name with _ | j
  · have absent := List.find?_eq_none.mp hj k hk
    simp at absent
  · have same : j.name = k.name := by simpa using List.find?_some hj
    rw [hj, eq_of_name_eq (List.mem_of_find?_eq_some hj) hk same]

theorem give_unknown {key : String} {seen : List String} {p : Place} {t : Tree} {rest : Members}
    (h : key ∉ l.names) : ¬ (Members.member key p t rest).give l.fields seen base = .ok a := by
  have absent : (l.slots.find? fun k => k.name == key) = none := by
    apply List.find?_eq_none.mpr
    intro k hk same
    exact h (List.mem_map.mpr ⟨k, hk, by simpa using same⟩)
  simp [Members.give, find?_fields, absent]

theorem give_member (hk : k ∈ l.slots) {seen : List String} {p : Place} {t : Tree}
    {rest : Members} : (Members.member k.name p t rest).give l.fields seen base = .ok a ↔
      k.name ∉ seen ∧ ∃ d v, t.datum? = some d ∧ k.fits d v ∧
        rest.give l.fields (k.name :: seen) (k.set v base) = .ok a := by
  by_cases again : k.name ∈ seen
  · simp [Members.give, find?_fields, find?_slots hk, again]
  · have step : (Members.member k.name p t rest).give l.fields seen base =
        k.field.read t base >>= rest.give l.fields (k.name :: seen) := by
      simp only [Members.give, find?_fields, find?_slots hk, Option.map_some,
        List.contains_iff_mem, again, if_false]
      cases k.field.read t base <;> rfl
    rw [step, Slot.read_bind]
    exact (and_iff_right again).symm

/-- Members are given in any order, each of them once. -/
theorem members_give {seen : List String} {base : α} : ∀ {ms : Members},
    ms.give l.fields seen base = .ok a ↔ ∃ given, ms.data? = some given ∧
      (∀ m ∈ given, m.1 ∈ l.names) ∧ (given.map Prod.fst).Nodup ∧ (∀ m ∈ given, m.1 ∉ seen) ∧
      l.Overlays given base a
  | .close => by
    simp [Members.give, Members.data?, overlays_nil, eq_comm]
  | .fault f => by
    simp [Members.give, Members.data?]
  | .member key p t rest => by
    by_cases known : key ∈ l.names
    · obtain ⟨k, hk, rfl⟩ := List.mem_map.mp known
      rw [give_member hk]
      constructor
      · rintro ⟨new, d, v, hd, fits, h⟩
        obtain ⟨given, hg, names, once, fresh, overlays⟩ := members_give.mp h
        have apart : ∀ m ∈ given, m.1 ≠ k.name ∧ m.1 ∉ seen := by
          intro m hm
          simpa using fresh m hm
        refine ⟨(k.name, d) :: given, Members.data?_member.mpr ⟨d, given, hd, hg, rfl⟩, ?_, ?_, ?_,
          ?_⟩
        · exact List.forall_mem_cons.mpr ⟨known, names⟩
        · apply List.nodup_cons.mpr ⟨?_, once⟩
          intro hm
          obtain ⟨m, hm, same⟩ := List.mem_map.mp hm
          exact (apart m hm).1 same
        · exact List.forall_mem_cons.mpr ⟨new, fun m hm => (apart m hm).2⟩
        · exact (overlays_cons hk fun m hm => (apart m hm).1).mpr ⟨v, fits, overlays⟩
      · rintro ⟨given, hg, names, once, fresh, overlays⟩
        obtain ⟨d, more, hd, hm, rfl⟩ := Members.data?_member.mp hg
        rw [List.map_cons, List.nodup_cons] at once
        rw [List.forall_mem_cons] at names fresh
        have apart : ∀ m ∈ more, m.1 ≠ k.name := by
          intro m hm same
          exact once.1 (List.mem_map.mpr ⟨m, hm, same⟩)
        obtain ⟨v, fits, overlays⟩ := (overlays_cons hk apart).mp overlays
        refine ⟨fresh.1, d, v, hd, fits, members_give.mpr ⟨more, hm, names.2, once.2, ?_, overlays⟩⟩
        intro m hm
        simpa using ⟨apart m hm, fresh.2 m hm⟩
    · constructor
      · exact fun h => absurd h (give_unknown known)
      · rintro ⟨given, hg, names, -⟩
        obtain ⟨d, more, -, -, rfl⟩ := Members.data?_member.mp hg
        exact absurd (names _ List.mem_cons_self) known

theorem closing_eq_ok {items : Items} {u : Unit} :
    items.closing = .ok u ↔ items.data? = some [] := by
  cases items with
  | close => simp [Items.closing, Items.data?]
  | fault f =>
    simp only [Items.closing, Items.data?]
    split <;> simp
  | item p t rest =>
    simp only [Items.closing, reduceCtorEq, false_iff]
    intro h
    obtain ⟨d, more, -, -, h⟩ := Items.data?_item.mp h
    cases h

/-- Items are given to the slots in order. -/
theorem items_give {rest : List (Slot α)} (hr : rest ⊆ l.slots)
    (nodup : (rest.map (·.name)).Nodup) {items : Items} :
    items.give (rest.map (·.field)) base = .ok a ↔ ∃ ds, items.data? = some ds ∧
      ds.length ≤ rest.length ∧ l.Overlays ((rest.map (·.name)).zip ds) base a := by
  induction rest generalizing items base with
  | nil =>
    simp only [List.map_nil, Items.give, map_eq_ok, closing_eq_ok, List.length_nil,
      Nat.le_zero_eq, List.length_eq_zero_iff, List.zip_nil_left, overlays_nil]
    constructor
    · rintro ⟨-, hd, rfl⟩
      exact ⟨[], hd, rfl, rfl⟩
    · rintro ⟨_, hd, rfl, rfl⟩
      exact ⟨(), hd, rfl⟩
  | cons k rest ih =>
    rw [List.cons_subset] at hr
    rw [List.map_cons, List.nodup_cons] at nodup
    rcases items with _ | f | ⟨p, t, more⟩
    · simp [Items.give, Items.data?, overlays_nil, eq_comm]
    · simp [Items.give, Items.data?]
    · have step : (Items.item p t more).give ((k :: rest).map (·.field)) base =
          k.field.read t base >>= more.give (rest.map (·.field)) := by
        simp only [List.map_cons, Items.give]
        cases k.field.read t base <;> rfl
      rw [step, Slot.read_bind]
      have apart {ds : List Datum} : ∀ m ∈ (rest.map (·.name)).zip ds, m.1 ≠ k.name := by
        intro m hm same
        have := (List.of_mem_zip hm).1
        rw [same] at this
        exact nodup.1 this
      constructor
      · rintro ⟨d, v, hd, fits, h⟩
        obtain ⟨ds, hds, short, overlays⟩ := (ih hr.2 nodup.2).mp h
        refine ⟨d :: ds, Items.data?_item.mpr ⟨d, ds, hd, hds, rfl⟩, Nat.succ_le_succ short, ?_⟩
        exact (overlays_cons hr.1 apart).mpr ⟨v, fits, overlays⟩
      · rintro ⟨_, hds, short, overlays⟩
        obtain ⟨d, ds, hd, hm, rfl⟩ := Items.data?_item.mp hds
        obtain ⟨v, fits, overlays⟩ := (overlays_cons hr.1 apart).mp overlays
        refine ⟨d, v, hd, fits, (ih hr.2 nodup.2).mpr ⟨ds, hm, ?_, overlays⟩⟩
        exact Nat.le_of_succ_le_succ short

theorem fits_iff : Fits l.components base d a ↔
    ∃ given, Gives l.names d given ∧ l.Overlays given base a := by
  simp [Fits, components, names, Overlays, Function.comp_def]

/-- Reading a record finds the data that fit it. -/
theorem record_eq_ok {title : String} {t : Tree} : t.record title l.fields base = .ok a ↔
    ∃ d, t.datum? = some d ∧ Fits l.components base d a := by
  simp only [fits_iff]
  constructor
  · intro h
    unfold Tree.record at h
    split at h
    · next p ms =>
      obtain ⟨given, hg, known, once, -, overlays⟩ := members_give.mp h
      exact ⟨.object given, by simp [Tree.datum?, hg], given, .object known once, overlays⟩
    · next p items =>
      obtain ⟨ds, hd, short, overlays⟩ := (items_give (List.Subset.refl _) l.names_nodup).mp h
      refine ⟨.list ds, by simp [Tree.datum?, hd], _, .list ?_, overlays⟩
      simpa [names] using short
    · cases h
  · rintro ⟨d, hd, given, gives, overlays⟩
    cases gives with
    | object known once =>
      obtain ⟨p, ms, rfl, hg⟩ := Tree.datum?_eq_object.mp hd
      exact members_give.mpr ⟨given, hg, known, once, by simp, overlays⟩
    | @list ds short =>
      obtain ⟨p, items, rfl, hds⟩ := Tree.datum?_eq_list.mp hd
      apply (items_give (List.Subset.refl _) l.names_nodup).mpr
      exact ⟨ds, hds, by simpa [names] using short, overlays⟩

/-! ## What is given -/

theorem lookup_of_mem (once : (given.map Prod.fst).Nodup) {m : String × Datum} (h : m ∈ given) :
    given.lookup m.1 = some m.2 := by
  induction given with
  | nil => cases h
  | cons first given ih =>
    rw [List.map_cons, List.nodup_cons] at once
    rcases List.mem_cons.mp h with rfl | h
    · exact List.lookup_cons_self
    · have different : (m.1 == first.1) = false := by
        rw [beq_eq_false_iff_ne]
        intro same
        exact once.1 (same ▸ List.mem_map_of_mem h)
      rw [List.lookup_cons, different]
      exact ih once.2 h

theorem Gives.keys {names : List String} (gives : Gives names d given) (once : names.Nodup) :
    (∀ m ∈ given, m.1 ∈ names) ∧ (given.map Prod.fst).Nodup := by
  cases gives with
  | object known once => exact ⟨known, once⟩
  | @list ds short =>
    refine ⟨fun m hm => (List.of_mem_zip hm).1, ?_⟩
    rw [List.zip_eq_zip_take_min, List.map_fst_zip (by simp)]
    exact once.sublist (List.take_sublist _ _)

theorem exists_mem_zip {slots : List (Slot α)} {ds : List Datum}
    (h : List.Forall₂ (fun k d => k.fits d (k.get a)) slots ds) (hk : k ∈ slots) :
    ∃ d, (k.name, d) ∈ (slots.map (·.name)).zip ds ∧ k.fits d (k.get a) := by
  induction h with
  | nil => cases hk
  | @cons j d slots ds fits _ ih =>
    rcases List.mem_cons.mp hk with rfl | hk
    · exact ⟨d, List.mem_cons_self, fits⟩
    · obtain ⟨d', hd, fits⟩ := ih hk
      exact ⟨d', List.mem_cons_of_mem _ hd, fits⟩

/-- Where each slot is given the datum of its value, it does not matter what is overlaid. -/
theorem fits_object {ds : List Datum}
    (h : List.Forall₂ (fun (k : Slot α) d => k.fits d (k.get a)) l.slots ds) :
    Fits l.components base (.object (l.names.zip ds)) a := by
  have short : ds.length ≤ l.names.length := by
    simp [names, h.length_eq]
  obtain ⟨known, once⟩ := Gives.keys (.list short) l.names_nodup
  refine fits_iff.mpr ⟨_, .object known once, ?_⟩
  intro k hk
  obtain ⟨d, hd, fits⟩ := exists_mem_zip h hk
  simpa only [Component.Laid, lookup_of_mem once hd] using fits

/-- What is given of a record fits one of its slots. -/
theorem exists_fits (gives : Gives l.names d given) (overlays : l.Overlays given base a)
    {m : String × Datum} (h : m ∈ given) : ∃ k ∈ l.slots, k.fits m.2 (k.get a) := by
  obtain ⟨known, once⟩ := Gives.keys gives l.names_nodup
  obtain ⟨k, hk, name⟩ := List.mem_map.mp (known m h)
  have laid := overlays k hk
  simp only [Component.Laid, name, lookup_of_mem once h] at laid
  exact ⟨k, hk, laid⟩

/-- A record is one level deeper than its components. -/
theorem readable_of_fits {depth : Nat}
    (h : ∀ k ∈ l.slots, ∀ d v, k.fits d v → d.Readable depth)
    (fits : Fits l.components base d a) : d.Readable (depth + 1) := by
  obtain ⟨given, gives, overlays⟩ := fits_iff.mp fits
  have readable : ∀ m ∈ given, m.2.Readable depth := by
    intro m hm
    obtain ⟨k, hk, fits⟩ := exists_fits gives overlays hm
    exact h k hk _ _ fits
  cases gives with
  | object => exact .object readable
  | @list ds short =>
    apply Datum.Readable.list
    intro d hd
    rw [← List.map_snd_zip short] at hd
    obtain ⟨m, hm, rfl⟩ := List.mem_map.mp hd
    exact readable m hm

end Layout

end GuestWatch.Json
