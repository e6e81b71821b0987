import PltKeeper.Command.Machine
import PltKeeper.Json.Printer
import PltKeeper.Log.Sinks

/-!
The command that brings the PLTs of a project up to date and analyses it.
-/

namespace PltKeeper.Command

/-- What the command is asked to do. -/
structure AnalyzeOptions where
  /-- The project's directory. -/
  root : String := "."
  /-- Whether to bring the PLT up to date; the configuration decides if it is not said. -/
  updatePlt : Option Bool := none
  /-- Whether to run success typing; the configuration decides if it is not said. -/
  succTypings : Option Bool := none
  /-- Where to write a summary of the run. -/
  summary : Option String := none
  /-- Where to keep a log. -/
  logDir : Option String := none
  deriving DecidableEq, Repr, Inhabited

/-- A truth value that may be left open. -/
def ofChoice (b : Option Bool) : Json := (b.map Json.bool).getD .null

/-- The exit code of an outcome. -/
def exitCodeOf : RunStatus → ExitCode
  | .success => .success
  | .warnings => .warnings
  | .failed => .fatalError

/-- Makes a log directory with its file. -/
def makeLogDir (m : Machine) (dir : String) : Step Unit := fun s =>
  let sinks : Log.Sinks := ⟨0, false, none, none⟩
  let (added, t) := sinks.addDirectory m.host.cwd m.now (Path.parse dir)
    (Log.threshold "DEBUG") s.tree
  let s := { s with tree := t }
  match added with
  | .ok _ => .ok () s
  | .error e => .error e s

/-- The summary of a run. -/
def summaryOf (o : Outcome) : Json :=
  let code := exitCodeOf o.status
  .obj (o.fields ++
    [("exit_code", .int code.number), ("exit_description", .str code.description)])

/-- Writes the summary of a run. -/
def writeSummary (m : Machine) (file : String) (o : Outcome) : Step Unit := fun s =>
  let page := Text.Utf8.encode (summaryOf o).page
  match s.tree.modifyNamed m.host.cwd file fun _ => page with
  | .ok t => .ok () { s with tree := t }
  | .error e => .error e s

/-- Prints what came of a run. -/
def printOutcome (m : Machine) (o : Outcome) : Step Unit :=
  let error := (o.error.map Failure.message).getD "None"
  match o.status with
  | .failed => printMessage m.screen (Console.error m.screen error)
  | .warnings =>
    let file := (o.output.map Path.text).getD "None"
    print m.screen (Console.statusPanel m.screen "WARNINGS" error ("Warnings written to " ++ file))
  | .success => printMessage m.screen (Console.success m.screen "No dialyzer warnings")

/-- Prints that the user stopped the run. -/
def printStopped (m : Machine) : Step Unit :=
  printMessage m.screen (Console.message m.screen "\n[bold red][INFO] Run stopped by user.[/bold red]")

/-- A text that is given and not empty. -/
def nonempty? (s : Option String) : Option String := s.bind fun s => if s = "" then none else some s

/-- What follows a run. -/
def conclude (m : Machine) (o : AnalyzeOptions) (outcome : Outcome) : Step ExitCode := do
  if let some file := nonempty? o.summary then writeSummary m file outcome
  printOutcome m outcome
  return exitCodeOf outcome.status

/-- Runs a job and concludes. A run that the user stops is no failure of the command. -/
def runJob (m : Machine) (o : AnalyzeOptions) (job : Job Shell) : Step ExitCode := fun s =>
  match inSession m.screen job.run s with
  | .ok outcome s => conclude m o outcome s
  | .error .interrupted s =>
    (do
      printStopped m
      return ExitCode.interrupted : Step ExitCode) s
  | .error e s => .error e s

/-- The command. -/
def analyze (m : Machine) (o : AnalyzeOptions) : Step ExitCode := do
  if let some dir := nonempty? o.logDir then makeLogDir m dir
  let choices := [("update_plt", ofChoice o.updatePlt), ("succ_typings", ofChoice o.succTypings)]
  orReport m (setUp m o.root choices) (runJob m o)

end PltKeeper.Command
