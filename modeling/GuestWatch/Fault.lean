import GuestWatch.Guest
import GuestWatch.Json.Fault
import GuestWatch.Path
import GuestWatch.Pattern
import GuestWatch.Status

/-! # What can go wrong

A request can be refused before anything is started; after that the backend can fail, the guest's
output can end, or time can run out. Texts of the operating system are carried as they are.
-/
namespace GuestWatch

/-- Why a request is refused. -/
inductive Refusal
  | stated (text : String)
  | badConfig (f : Json.Fault)
  | unreadableConfig (path : Path) (reason : String)
  | zeroTimeout
  | zeroLineTimeout
  | unsupportedBaudRate (rate : Nat)
  | emptyBinary
  | emptyMarker
  | badPattern (source : String) (r : Pattern.Refusal)
deriving DecidableEq, Repr

def Refusal.message : Refusal → String
  | .stated text => text
  | .badConfig f => "bad config: " ++ f.message
  | .unreadableConfig path reason => "cannot read config " ++ path.shown ++ ": " ++ reason
  | .zeroTimeout => "timeout must be non-zero"
  | .zeroLineTimeout => "line timeout must be non-zero"
  | .unsupportedBaudRate rate => "unsupported baud rate " ++ Text.Decimal.text rate
  | .emptyBinary => "emulator binary is empty"
  | .emptyMarker => "empty marker"
  | .badPattern source r => "bad expect pattern: " ++ r.message source

inductive Fault
  | invalidArgument (r : Refusal)
  | deviceNotFound (path : Path)
  | startFailed (backend : BackendKind) (reason : String)
  | stopFailed (backend : BackendKind) (reason : String)
  | readFailed (reason : String)
  | streamClosed
  | timedOut (ms : Nat)
deriving DecidableEq, Repr

namespace Fault

def message : Fault → String
  | .invalidArgument r => "invalid argument: " ++ r.message
  | .deviceNotFound path => "device not found: " ++ path.shown
  | .startFailed backend reason => "failed to start " ++ backend.name ++ " backend: " ++ reason
  | .stopFailed backend reason => "failed to stop " ++ backend.name ++ " backend: " ++ reason
  | .readFailed reason => "failed to read guest output: " ++ reason
  | .streamClosed => "guest output ended before a terminal marker"
  | .timedOut ms => "no terminal marker within " ++ Text.Decimal.text (ms / 1000) ++ "s"

/-- The outcome of a run that ends with a fault. -/
def status : Fault → Status
  | .timedOut _ => .timedOut
  | _ => .backendError

end Fault

end GuestWatch
