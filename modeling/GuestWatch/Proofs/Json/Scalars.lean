import GuestWatch.Proofs.Json.Records

/-! # Texts, numbers and lists of texts

The data that stand for values without components, and what is read of them.
-/
namespace GuestWatch.Json

namespace Datum

def texts (lines : List String) : Datum := .list (lines.map .text)

def ofText? : Option String → Datum
  | some s => .text s
  | none => .null

def ofUInt64 (n : UInt64) : Datum := .natural n.toNat

def ofUInt32 (n : UInt32) : Datum := .natural n.toNat

variable {depth : Nat}

theorem readable_texts {lines : List String} : (texts lines).Readable (depth + 1) := by
  apply Readable.list
  intro d hd
  obtain ⟨s, -, rfl⟩ := List.mem_map.mp hd
  exact .text

theorem readable_ofText? {s : Option String} : (ofText? s).Readable depth := by
  cases s with
  | none => exact .null
  | some s => exact .text

theorem readable_ofUInt64 {n : UInt64} : (ofUInt64 n).Readable depth :=
  .natural (Nat.le_pred_of_lt n.toNat_lt)

theorem readable_ofUInt32 {n : UInt32} : (ofUInt32 n).Readable depth := by
  apply Readable.natural
  have small : n.toNat < 2 ^ 32 := n.toNat_lt
  have bound : 2 ^ 32 ≤ Text.Decimal.max64 := by decide
  omega

end Datum

/-- A component whose values each have one datum. -/
def Component.exactly {α β : Type} (name : String) (datum : β → Datum) (get : α → β) :
    Component α where
  name
  fits d v := d = datum v
  get

/-- A slot for a component whose values each have one datum. -/
def Slot.exactly {α β γ : Type} (name : String) (datum : β → Datum) (get : α → β)
    (read : Tree → Except Fault γ) (value : γ → β) (set : β → α → α)
    (reads : ∀ {t : Tree} {v : β}, (∃ g, read t = .ok g ∧ value g = v) ↔ t.datum? = some (datum v))
    (get_set : ∀ (v : β) (a : α), get (set v a) = v) : Slot α where
  toComponent := .exactly name datum get
  read
  value
  set
  reads := by simp [Component.exactly, reads]
  get_set := get_set

namespace Tree

variable {t : Tree} {wanted : String}

theorem string_eq_ok {s : String} : t.string wanted = .ok s ↔ t.datum? = some (.text s) := by
  rw [datum?_eq_text]
  fun_cases string wanted t <;> simp_all

theorem boolean_eq_ok {b : Bool} : t.boolean = .ok b ↔ t.datum? = some (.bool b) := by
  rw [datum?_eq_bool]
  cases t <;> simp [boolean]

theorem natural_eq_ok {bound n : Nat} : t.natural bound wanted = .ok n ↔
    t.datum? = some (.natural n) ∧ n ≤ bound := by
  rw [datum?_eq_natural]
  fun_cases natural bound wanted t with
  | case1 m p fits =>
    simp only [Except.ok.injEq, number.injEq, Number.natural.injEq, exists_and_left, exists_eq',
      and_true]
    constructor
    · rintro rfl
      exact ⟨rfl, fits⟩
    · exact And.left
  | case2 m p beyond =>
    simp only [reduceCtorEq, number.injEq, Number.natural.injEq, exists_and_left, exists_eq',
      and_true, false_iff, not_and]
    rintro rfl
    exact beyond
  | case3 => simp
  | case4 => simp_all

theorem optional_eq_ok {s : Option String} :
    t.optional (·.string wanted) = .ok s ↔ t.datum? = some (.ofText? s) := by
  cases s with
  | none =>
    rw [show Datum.ofText? none = .null from rfl, datum?_eq_null]
    fun_cases optional (·.string wanted) t <;> simp_all [map_eq_ok]
  | some s =>
    rw [show Datum.ofText? (some s) = .text s from rfl, datum?_eq_text]
    fun_cases optional (·.string wanted) t <;> simp_all [map_eq_ok, string_eq_ok, datum?_eq_text]

end Tree

theorem Items.strings_eq_ok : ∀ {items : Items} {lines : List String},
    items.strings = .ok lines ↔ items.data? = some (lines.map .text)
  | .close, lines => by
    simp [strings, data?, eq_comm]
  | .fault f, lines => by
    simp [strings, data?]
  | .item p t rest, lines => by
    have step : (item p t rest).strings =
        t.string "a string" >>= fun s => rest.strings.map (s :: ·) := by
      simp only [strings]
      cases t.string "a string" <;> rfl
    simp only [step, bind_eq_ok, map_eq_ok, Tree.string_eq_ok, strings_eq_ok, data?_item]
    constructor
    · rintro ⟨s, hs, more, hm, rfl⟩
      exact ⟨_, _, hs, hm, rfl⟩
    · rintro ⟨d, more, hd, hm, h⟩
      rcases lines with _ | ⟨s, lines⟩
      · cases h
      · obtain ⟨rfl, rfl⟩ := List.cons.inj h
        exact ⟨s, hd, lines, hm, rfl⟩

theorem Tree.strings_eq_ok {t : Tree} {lines : List String} :
    t.strings = .ok lines ↔ t.datum? = some (.texts lines) := by
  rw [Datum.texts, datum?_eq_list]
  fun_cases strings t <;> simp_all [Items.strings_eq_ok]

theorem Tree.uint64_eq_ok {t : Tree} {wanted : String} {n : UInt64} :
    (∃ m, t.natural Text.Decimal.max64 wanted = .ok m ∧ UInt64.ofNat m = n) ↔
      t.datum? = some (.ofUInt64 n) := by
  simp only [natural_eq_ok]
  constructor
  · rintro ⟨m, ⟨hd, bound⟩, rfl⟩
    have small : m < 2 ^ 64 := Nat.lt_of_le_pred (by decide) bound
    rw [hd, Datum.ofUInt64, UInt64.toNat_ofNat_of_lt' small]
  · intro h
    exact ⟨n.toNat, ⟨h, Nat.le_pred_of_lt n.toNat_lt⟩, UInt64.ofNat_toNat⟩

theorem Tree.uint32_eq_ok {t : Tree} {wanted : String} {n : UInt32} :
    (∃ m, t.natural Text.Decimal.max32 wanted = .ok m ∧ UInt32.ofNat m = n) ↔
      t.datum? = some (.ofUInt32 n) := by
  simp only [natural_eq_ok]
  constructor
  · rintro ⟨m, ⟨hd, bound⟩, rfl⟩
    have small : m < 2 ^ 32 := Nat.lt_of_le_pred (by decide) bound
    rw [hd, Datum.ofUInt32, UInt32.toNat_ofNat_of_lt' small]
  · intro h
    exact ⟨n.toNat, ⟨h, Nat.le_pred_of_lt n.toNat_lt⟩, UInt32.ofNat_toNat⟩

end GuestWatch.Json
