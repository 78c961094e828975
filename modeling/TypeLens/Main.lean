/-
# TypeLens.Main -- the program

Reads the environment and the host, runs the command line, and prints what comes of it.
-/
import TypeLens.CommandLine.Run

namespace TypeLens.Main

/-- The environment of the process. -/
def processEnvironment : IO Environment :=
  Variable.all.foldlM (fun env v => do
    let value ← IO.getEnv (String.ofList v.name)
    return env.set v (value.map String.toList)) {}

/-- The machine name that the kernel reports, empty when it reports none. -/
def machineName : IO Text := do
  try
    let name ← IO.FS.readFile "/proc/sys/kernel/arch"
    return trim name.toList
  catch _ => return []

/-- The bytes of a pointer in this process. -/
def pointerBytes : Int := if USize.size = 0x10000000000000000 then 8 else 4

end TypeLens.Main

open TypeLens in
/-- Runs the command line in the environment of the process. -/
def main (arguments : List String) : IO UInt32 := do
  let host := Host.detect (← Main.machineName) Main.pointerBytes
  let outcome := CommandLine.run host (← Main.processEnvironment) (arguments.map String.toList)
  IO.print (String.ofList outcome.stdout)
  IO.eprint (String.ofList outcome.stderr)
  return (outcome.exitCode.getD 0).toUInt32
