import PltKeeper.Command.Line
import PltKeeper.Json.Reader
import PltKeeper.Rehearsal

/-!
The program. It reads the description of a machine from standard input, rehearses the command line
that its arguments spell on it, and ends as the command ends. An empty input describes a machine on
which there is nothing yet.
-/

namespace PltKeeper

/-- The machine of a description and what a command finds on it. -/
def described (description : String) : Except Json.Fault (Command.Machine × Command.State) :=
  let description := if description.isEmpty then "{}" else description
  (Json.read Rehearsal.depth description).map fun j => (Rehearsal.machineOf j, Rehearsal.stateOf j)

/-- Reads an input to its end, after what was read of it before. -/
partial def readToEnd (input : IO.FS.Stream) (before : String) : IO String := do
  let line ← input.getLine
  if line.isEmpty then return before
  readToEnd input (before ++ line)

end PltKeeper

/-- Rehearses a command line on the machine that standard input describes. -/
def main (arguments : List String) : IO UInt32 := do
  match PltKeeper.described (← PltKeeper.readToEnd (← IO.getStdin) "") with
  | .error _ =>
    IO.eprintln "Error: The description of the machine cannot be read."
    return 2
  | .ok (machine, state) =>
    let ended := PltKeeper.Command.run machine arguments state
    IO.print ended.state.out
    IO.eprint ended.err
    return ended.code.toNat.toUInt32
