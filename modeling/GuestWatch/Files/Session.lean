import GuestWatch.Files.Environment
import GuestWatch.Session

/-! # Sessions in a tree of files

The file that a session leaves is written to the tree where that can be done; where it cannot,
nothing else changes.
-/
namespace GuestWatch.Files

/-- The tree with a session's file in it. -/
def keep (f : Files) (o : Session.Outcome) : Files :=
  match o.file with
  | none => f
  | some (path, text) => (f.write path (Text.Utf8.encode text)).toOption.getD f

/-- A session in the current directory: what it leaves, and the tree after it. -/
def session? (f : Files) (i : Interruption) (shownTime : UInt64 → UInt64) (clock : Nat)
    (calledAs : String) (args : List Options.Arg) : Option (Session.Outcome × Files) :=
  ((⟨f.environment, i, shownTime, clock⟩ : Session).run? calledAs args).map fun o => (o, f.keep o)

end GuestWatch.Files
