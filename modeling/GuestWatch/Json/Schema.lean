import GuestWatch.Json.Reader

/-! # Records from trees

A record is written as an object that gives some of its fields, or as a list that gives the first
of them in order. Fields not given keep the values they had. Fields that are unknown or given twice
are refused.
-/
namespace GuestWatch.Json

/-- A named field of a record, with how a given value changes the record. -/
structure Field (α : Type) where
  name : String
  read : Tree → α → Except Fault α

namespace Tree

/-- What a tree holds and the place at which it would be refused. -/
def found : Tree → Except Fault (Found × Place)
  | .fault f => .error f
  | .null p => .ok (.null, p)
  | .bool b p => .ok (.bool b, p)
  | .number n p => .ok (.number n, p)
  | .text s p => .ok (.text s, p)
  | .list p _ => .ok (.list, p)
  | .object p _ => .ok (.object, p)

/-- The fault of a tree where something else was wanted. -/
def refused (wanted : String) (t : Tree) : Fault :=
  match t.found with
  | .error f => f
  | .ok (found, place) => ⟨.wrongType found wanted, place⟩

/-- A whole number up to a bound. -/
def natural (bound : Nat) (wanted : String) : Tree → Except Fault Nat
  | .number (.natural n) p =>
    if n ≤ bound then .ok n else .error ⟨.wrongValue (.number (.natural n)) wanted, p⟩
  | .number (.negative z) p => .error ⟨.wrongValue (.number (.negative z)) wanted, p⟩
  | t => .error (t.refused wanted)

def string (wanted : String) : Tree → Except Fault String
  | .text s _ => .ok s
  | t => .error (t.refused wanted)

def boolean : Tree → Except Fault Bool
  | .bool b _ => .ok b
  | t => .error (t.refused "a boolean")

def optional {α : Type} (read : Tree → Except Fault α) : Tree → Except Fault (Option α)
  | .null _ => .ok none
  | t => (read t).map some

end Tree

namespace Items

def strings : Items → Except Fault (List String)
  | .close => .ok []
  | .fault f => .error f
  | .item _ t rest =>
    match t.string "a string" with
    | .error f => .error f
    | .ok s => rest.strings.map (s :: ·)

/-- Expects the end of a list, where no field is left to give. -/
def closing : Items → Except Fault Unit
  | .close => .ok ()
  | .item seen _ _ => .error ⟨.trailingCharacters, seen⟩
  | .fault f =>
    if f.cause = .expectedListCommaOrEnd ∨ f.cause = .eofInValue then
      .error ⟨.trailingCharacters, f.place⟩
    else .error f

/-- Gives the fields of a record in order. -/
def give {α : Type} : List (Field α) → Items → α → Except Fault α
  | [], items, a => items.closing.map fun _ => a
  | _ :: _, .close, a => .ok a
  | _ :: _, .fault f, _ => .error f
  | field :: fields, .item _ t rest, a =>
    match field.read t a with
    | .error f => .error f
    | .ok a => give fields rest a

end Items

/-- Gives fields of a record by name; `given` are those that have been. -/
def Members.give {α : Type} (fields : List (Field α)) (given : List String) :
    Members → α → Except Fault α
  | .close, a => .ok a
  | .fault f, _ => .error f
  | .member key refusal t rest, a =>
    match fields.find? fun field => field.name == key with
    | none => .error ⟨.unknownField key (fields.map (·.name)), refusal⟩
    | some field =>
      if given.contains key then .error ⟨.duplicateField key, refusal⟩
      else match field.read t a with
        | .error f => .error f
        | .ok a => Members.give fields (key :: given) rest a

namespace Tree

def strings : Tree → Except Fault (List String)
  | .list _ items => items.strings
  | t => .error (t.refused "a sequence")

/-- A record laid over another. -/
def record {α : Type} (title : String) (fields : List (Field α)) (a : α) : Tree → Except Fault α
  | .object _ members => members.give fields [] a
  | .list _ items => items.give fields a
  | t => .error (t.refused ("struct " ++ title))

end Tree

end GuestWatch.Json
