import GuestWatch.Config
import GuestWatch.Environment
import GuestWatch.LineReader

/-! # Emulated guests

The guest's console is the second serial line of the emulated board, and the emulator writes it to
its standard output. A start that fails leaves the guest as it was; one that succeeds replaces the
process and the reader together.
-/
namespace GuestWatch

/-- The arguments of the emulator. -/
def EmulatorConfig.arguments (c : EmulatorConfig) : List String :=
  ["-M", c.machine, "-kernel", c.kernel.shown, "-serial", "null", "-serial", "stdio",
    "-display", "none", "-monitor", "none", "-semihosting"] ++ c.extraArgs

structure Emulator where
  config : EmulatorConfig
  child : Option Child
  reader : Option LineReader
deriving DecidableEq, Repr

namespace Emulator

def ofConfig (c : EmulatorConfig) : Emulator := ⟨c, none, none⟩

def startFault (reason : String) : Fault := .startFailed .emulator reason

/-- Starts the emulator: it must be found, then the kernel must be there. -/
def launch (env : Environment) (c : EmulatorConfig) : Except Fault Spawned :=
  match env.findProgram c.binary with
  | none => .error (startFault
      ("emulator " ++ Text.Quoted.quote c.binary ++ " not found: cannot find binary path"))
  | some program =>
    if !env.isPresent c.kernel then .error (.deviceNotFound c.kernel)
    else match env.spawn program c.arguments with
      | .ok spawned => .ok spawned
      | .error reason => .error (startFault ("spawning " ++ program.shown ++ ": " ++ reason))

def start (env : Environment) (g : Emulator) : Except Fault Unit × Emulator :=
  match launch env g.config with
  | .error f => (.error f, g)
  | .ok spawned =>
    (.ok (), { g with child := some spawned.child, reader := some (.ofStream spawned.console) })

/-- Reads a line; the process lives on while the read waits. -/
def read (g : Emulator) (wait : Nat) : Reading × Nat × Emulator :=
  match g.reader with
  | none => (.error .streamClosed, 0, g)
  | some r =>
    let (answer, took, r) := r.nextLine wait
    (answer, took, { g with reader := some r, child := g.child.map (·.pass took) })

/-- Stops the guest. The child that it had, if any, is ended, and how that went is given too. -/
def stop (g : Emulator) : Except Fault Unit × Option Child.Termination × Emulator :=
  match g.child with
  | none => (.ok (), none, { g with reader := none })
  | some c =>
    let ended := c.terminate g.config.stopGraceMs.toNat
    (ended.answer.mapError (.stopFailed .emulator), some ended,
      { g with child := none, reader := none })

end Emulator

end GuestWatch
