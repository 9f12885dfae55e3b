import GuestWatch.Config
import GuestWatch.Proofs.Json.Scalars

/-! # The schema of configurations

The components of a configuration in the order of their declaration, each with the data that stand
for its values. What is not given is as in the default configuration, in every section.
-/
namespace GuestWatch

open Json (Datum Component)

namespace EmulatorConfig

def components : List (Component EmulatorConfig) := [
  .exactly "binary" .text (·.binary),
  .exactly "machine" .text (·.machine),
  ⟨"kernel", fun d path => ∃ s, d = .text s ∧ .ofText s = path, (·.kernel)⟩,
  .exactly "extra_args" .texts (·.extraArgs),
  .exactly "stop_grace_ms" .ofUInt64 (·.stopGraceMs)]

/-- The datum stands for the section. -/
def Fits (d : Datum) (c : EmulatorConfig) : Prop := Json.Fits components {} d c

end EmulatorConfig

namespace SerialConfig

def components : List (Component SerialConfig) := [.exactly "baud_rate" .ofUInt32 (·.baudRate)]

/-- The datum stands for the section. -/
def Fits (d : Datum) (c : SerialConfig) : Prop := Json.Fits components {} d c

end SerialConfig

namespace MarkerConfig

def components : List (Component MarkerConfig) := [
  .exactly "pass" .texts (·.pass),
  .exactly "fail" .texts (·.fail),
  .exactly "expect" .ofText? (·.expect),
  .exactly "runner_protocol" .bool (·.runnerProtocol)]

/-- The datum stands for the section. -/
def Fits (d : Datum) (c : MarkerConfig) : Prop := Json.Fits components {} d c

end MarkerConfig

namespace Config

def components : List (Component Config) := [
  .exactly "timeout_secs" .ofUInt64 (·.timeoutSecs),
  .exactly "line_timeout_ms" .ofUInt64 (·.lineTimeoutMs),
  ⟨"qemu", EmulatorConfig.Fits, (·.emulator)⟩,
  ⟨"serial", SerialConfig.Fits, (·.serial)⟩,
  ⟨"markers", MarkerConfig.Fits, (·.markers)⟩]

/-- The datum stands for the configuration. -/
def Fits (d : Datum) (c : Config) : Prop := Json.Fits components .default d c

end Config

end GuestWatch
