import GuestWatch.Config
import GuestWatch.Json.Schema

/-! # Reading configurations

A configuration is a record of JSON, laid over the default one.
-/
namespace GuestWatch

open Json (Tree)

def wanted64 : String := "u64"

def wanted32 : String := "u32"

def EmulatorConfig.fields : List (Json.Field EmulatorConfig) := [
  ⟨"binary", fun t c => (t.string "a string").map fun v => { c with binary := v }⟩,
  ⟨"machine", fun t c => (t.string "a string").map fun v => { c with machine := v }⟩,
  ⟨"kernel", fun t c => (t.string "path string").map fun v => { c with kernel := .ofText v }⟩,
  ⟨"extra_args", fun t c => t.strings.map fun v => { c with extraArgs := v }⟩,
  ⟨"stop_grace_ms", fun t c => (t.natural Text.Decimal.max64 wanted64).map fun v =>
    { c with stopGraceMs := .ofNat v }⟩]

def SerialConfig.fields : List (Json.Field SerialConfig) := [
  ⟨"baud_rate", fun t c => (t.natural Text.Decimal.max32 wanted32).map fun v =>
    { c with baudRate := .ofNat v }⟩]

def MarkerConfig.fields : List (Json.Field MarkerConfig) := [
  ⟨"pass", fun t c => t.strings.map fun v => { c with pass := v }⟩,
  ⟨"fail", fun t c => t.strings.map fun v => { c with fail := v }⟩,
  ⟨"expect", fun t c => (t.optional (·.string "a string")).map fun v => { c with expect := v }⟩,
  ⟨"runner_protocol", fun t c => t.boolean.map fun v => { c with runnerProtocol := v }⟩]

def EmulatorConfig.ofTree (t : Tree) : Except Json.Fault EmulatorConfig :=
  t.record "QemuConfig" fields {}

def SerialConfig.ofTree (t : Tree) : Except Json.Fault SerialConfig :=
  t.record "SerialConfig" fields {}

def MarkerConfig.ofTree (t : Tree) : Except Json.Fault MarkerConfig :=
  t.record "MarkerConfig" fields {}

namespace Config

def fields : List (Json.Field Config) := [
  ⟨"timeout_secs", fun t c => (t.natural Text.Decimal.max64 wanted64).map fun v =>
    { c with timeoutSecs := .ofNat v }⟩,
  ⟨"line_timeout_ms", fun t c => (t.natural Text.Decimal.max64 wanted64).map fun v =>
    { c with lineTimeoutMs := .ofNat v }⟩,
  ⟨"qemu", fun t c => (EmulatorConfig.ofTree t).map fun v => { c with emulator := v }⟩,
  ⟨"serial", fun t c => (SerialConfig.ofTree t).map fun v => { c with serial := v }⟩,
  ⟨"markers", fun t c => (MarkerConfig.ofTree t).map fun v => { c with markers := v }⟩]

def ofTree (t : Tree) : Except Json.Fault Config := t.record "HostConfig" fields {}

/-- Reads a configuration from the text of a JSON document. -/
def ofText (text : String) : Except Fault Config :=
  let document := Json.Document.ofText text
  match ofTree document.tree with
  | .error f => .error (.invalidArgument (.badConfig f))
  | .ok c =>
    match document.ending with
    | some f => .error (.invalidArgument (.badConfig f))
    | none => .ok c

end Config

end GuestWatch
