import GuestWatch.Pattern.Meaning
import GuestWatch.Pattern.Search
import GuestWatch.Pattern.Size

/-! # Patterns

A pattern is a regular expression in text form. It is read, given its meaning, measured against
the size limit and compiled; then lines can be searched for it.
-/
namespace GuestWatch

structure Pattern where
  source : String
  program : Pattern.Program

namespace Pattern

/-- Why a text is no pattern. -/
inductive Refusal
  | malformed (f : Fault)
  | tooLarge
deriving DecidableEq, Repr

/-- The message about a text that is no pattern. -/
def Refusal.message (text : String) : Refusal → String
  | .malformed f => f.message text
  | .tooLarge =>
    "Compiled regex exceeds size limit of " ++ Text.Decimal.text Size.limit ++ " bytes."

/-- The pattern of a text. -/
def ofText (text : String) : Except Refusal Pattern :=
  match Regex.ofText text with
  | .error f => .error (.malformed f)
  | .ok r => if Size.fits r then .ok ⟨text, .ofRegex r⟩ else .error .tooLarge

/-- Whether some part of a line matches. -/
def isIn (p : Pattern) (line : String) : Bool := p.program.matchesSome line.toList

end Pattern

end GuestWatch
