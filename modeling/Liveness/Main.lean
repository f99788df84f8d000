import Liveness.CommandLine.Commands

/-!
# The program

Runs a command over the files of the machine. The program opens no sockets: its node is out of
reach, and databases last as long as the program.
-/

open Liveness

/-- The disk with the configuration that the arguments name, if it can be read. -/
def diskFor (args : List String) : IO Disk := do
  match CommandLine.flag? args "--config" with
  | none => return .empty
  | some path =>
    try return Disk.empty.withText path (← IO.FS.readFile path)
    catch _ => return .empty

/-- The program. -/
def main (args : List String) : IO UInt32 := do
  let machine : Machine Nowhere :=
    { disk := ← diskFor args, node := ⟨⟩, latencyMs := 0, connections := [], out := "", err := "" }
  let (code, machine) := CommandLine.run args machine
  IO.print machine.out
  IO.eprint machine.err
  return code.toUInt32
