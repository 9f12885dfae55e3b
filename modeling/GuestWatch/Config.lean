import GuestWatch.Fault

/-! # Configuration

What a run is given: how long it may take, how the guest is reached, and which lines decide it.
-/
namespace GuestWatch

structure EmulatorConfig where
  binary : String := "qemu-system-aarch64"
  machine : String := "raspi3b"
  kernel : Path := .ofText "build/kernel8.img"
  extraArgs : List String := []
  stopGraceMs : UInt64 := 2000
deriving DecidableEq, Repr

structure SerialConfig where
  baudRate : UInt32 := 115200
deriving DecidableEq, Repr

structure MarkerConfig where
  pass : List String := ["PASS"]
  fail : List String := ["FAIL"]
  expect : Option String := none
  runnerProtocol : Bool := true
deriving DecidableEq, Repr

structure Config where
  timeoutSecs : UInt64 := 60
  lineTimeoutMs : UInt64 := 1000
  emulator : EmulatorConfig := {}
  serial : SerialConfig := {}
  markers : MarkerConfig := {}
deriving DecidableEq, Repr

namespace Config

/-- What a run uses where nothing is given. -/
def default : Config := {}

/-- The time a run may take, in milliseconds. -/
def timeoutMs (c : Config) : Nat := c.timeoutSecs.toNat * 1000

end Config

end GuestWatch
