import GuestWatch.Config
import GuestWatch.Json.Printer

/-! # Writing configurations

Every field is written, under the name it is read by. A kernel path that is not text cannot be
written.
-/
namespace GuestWatch

open Json (Value)

def EmulatorConfig.toValue? (c : EmulatorConfig) : Option Value :=
  c.kernel.text?.map fun kernel => .object [
    ("binary", .text c.binary),
    ("machine", .text c.machine),
    ("kernel", .text kernel),
    ("extra_args", .texts c.extraArgs),
    ("stop_grace_ms", .natural c.stopGraceMs.toNat)]

def SerialConfig.toValue (c : SerialConfig) : Value :=
  .object [("baud_rate", .natural c.baudRate.toNat)]

def MarkerConfig.toValue (c : MarkerConfig) : Value :=
  .object [
    ("pass", .texts c.pass),
    ("fail", .texts c.fail),
    ("expect", .ofText? c.expect),
    ("runner_protocol", .bool c.runnerProtocol)]

/-- The configuration as a JSON value. -/
def Config.toValue? (c : Config) : Option Value :=
  c.emulator.toValue?.map fun emulator => .object [
    ("timeout_secs", .natural c.timeoutSecs.toNat),
    ("line_timeout_ms", .natural c.lineTimeoutMs.toNat),
    ("qemu", emulator),
    ("serial", c.serial.toValue),
    ("markers", c.markers.toValue)]

end GuestWatch
