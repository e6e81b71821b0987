import PltKeeper.Session

/-!
What the maintenance of PLTs works with, and the two things it does with the outside: asking the
backend and reporting warnings. Every question and every analysis is recorded, whatever comes of it.
The warnings file is emptied once, when a report begins, and only added to afterwards. The console
takes whatever it is given.
-/

namespace PltKeeper

/-- What the maintenance of PLTs works with. -/
structure Keeper (σ : Type) where
  /-- What analyses files. -/
  backend : Backend σ
  /-- The working directory. -/
  cwd : String
  /-- What the user wants of the analyses. -/
  wishes : Wishes
  /-- The warnings file. -/
  output : Path
  /-- Where the system stops adding bytes to a file. -/
  stops? : Stops := fun _ _ => none

namespace Keeper

variable {σ : Type} (k : Keeper σ)

/-- Puts what a backend left behind into the session and hands on its answer. -/
def accept {α : Type} (request : Request) (reply : Reply σ α) : Act σ α := fun s =>
  let s := { s with
    tree := reply.tree, backend := reply.state, requests := s.requests ++ [request] }
  match reply.result with
  | .ok a => .ok a s
  | .error e => .error e s

/-- The files that a PLT holds, or nothing if it has not been built. -/
def read (plt : Path) : Act σ (Option FileSet) := fun s =>
  accept (.query plt) (k.backend.query plt s.tree s.backend) s

/-- Runs one analysis. Warnings that were not asked for are dropped. -/
def analyze (a : Analysis) (files : List String) (plt : Path) : Act σ (List Diagnostic) := fun s =>
  let options := k.wishes.optionsFor a files plt
  match accept (.analyze options) (k.backend.analyze options s.tree s.backend) s with
  | .ok ds s => .ok (if options.getWarnings.isSet then ds else []) s
  | .error e s => .error e s

/-- The error that the warnings file could not be written. -/
def outputFailed (e : SystemError) : ToolError := .outputFailed k.output (.system e)

/-- Begins a report: the warnings file is there afterwards, and empty. -/
def beginReport : Act σ Path := do
  Act.restate (σ := σ) (do
    Act.changePartly fun t => t.makeDirs k.cwd k.output.parent
    Act.change fun t => t.write k.cwd k.output []) k.outputFailed
  return k.output

/-- The bytes that lines add to the warnings file. -/
def reportBytes (lines : List String) : List UInt8 :=
  lines.flatMap fun line => Text.Utf8.encode (line ++ "\n")

/-- Lines as they are added to the warnings file. -/
def fileLines (lines : List String) : List String := lines.map (· ++ "\n")

/-- Prints warnings, adds them to the warnings file and says how many there were. The file is not
touched when there are none. A line that cannot be encoded, or a system that stops, leaves the lines
before it in the file, and none is counted. What the console is given is taken to be printed: a console
that fails at a line would end the report there. -/
def report (ds : List Diagnostic) : Act σ Nat := do
  let lines := ds.map Diagnostic.reported
  modify fun s => { s with console := s.console ++ lines }
  if !lines.isEmpty then
    Act.restate (σ := σ)
      (Act.changePartly fun t => t.appendTexts k.cwd k.output k.stops? (fileLines lines))
      k.outputFailed
  modify fun s => { s with total := s.total + lines.length }
  return lines.length

end Keeper

end PltKeeper
