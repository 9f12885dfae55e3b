import GuestWatch.Json.Fault

/-! # Texts read as trees

A tree is what a text holds from left to right, with the places that messages name. Where the text
stops being well formed the tree has a fault in place of what should follow, so that a reader who
wants a certain shape meets the first thing wrong, in form or in kind, first.
-/
namespace GuestWatch.Json

mutual

/-- A value. Scalars carry the place after them, lists and objects the place before them. -/
inductive Tree
  | fault (f : Fault)
  | null (after : Place)
  | bool (b : Bool) (after : Place)
  | number (n : Number) (after : Place)
  | text (s : String) (after : Place)
  | list (here : Place) (items : Items)
  | object (here : Place) (members : Members)

/-- What follows in a list: each item has the place at which it is first seen. -/
inductive Items
  | close
  | fault (f : Fault)
  | item (seen : Place) (value : Tree) (rest : Items)

/-- What follows in an object: each key has the place at which it is refused. -/
inductive Members
  | close
  | fault (f : Fault)
  | member (key : String) (refusal : Place) (value : Tree) (rest : Members)

end

deriving instance Repr for Tree, Items, Members

namespace Tree

mutual

/-- The value that a tree without faults stands for, otherwise its first fault. -/
def value : Tree → Except Fault Value
  | .fault f => .error f
  | .null _ => .ok .null
  | .bool b _ => .ok (.bool b)
  | .number n _ => .ok (.number n)
  | .text s _ => .ok (.text s)
  | .list _ items => (values items).map .list
  | .object _ members => (fields members).map .object

def values : Items → Except Fault (List Value)
  | .close => .ok []
  | .fault f => .error f
  | .item _ t rest =>
    match value t with
    | .error f => .error f
    | .ok v => (values rest).map (v :: ·)

def fields : Members → Except Fault (List (String × Value))
  | .close => .ok []
  | .fault f => .error f
  | .member k _ t rest =>
    match value t with
    | .error f => .error f
    | .ok v => (fields rest).map ((k, v) :: ·)

end

end Tree

/-- A whole text: its value, and what is wrong with what follows the value. -/
structure Document where
  tree : Tree
  ending : Option Fault

/-- The value of a text that holds one and nothing else. -/
def Document.value (d : Document) : Except Fault Value :=
  match d.tree.value with
  | .error f => .error f
  | .ok v =>
    match d.ending with
    | some f => .error f
    | none => .ok v

end GuestWatch.Json
