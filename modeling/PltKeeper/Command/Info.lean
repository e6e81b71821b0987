import PltKeeper.Command.Machine

/-!
The command that says where a PLT is and how many files it holds. It changes nothing.
-/

namespace PltKeeper.Command

/-- What the command is asked to show. -/
structure InfoOptions where
  /-- The project's directory. -/
  root : String := "."
  /-- Whether it is about the base PLT. -/
  base : Bool := false
  /-- Whether to list the files. -/
  files : Bool := false
  deriving DecidableEq, Repr, Inhabited

/-- The PLT that the command is about. -/
def pltOf (o : InfoOptions) (job : Job Shell) : Path := if o.base then job.basePlt else job.plt

/-- What the command calls the PLT that it is about. -/
def pltName (o : InfoOptions) : String := if o.base then "Base PLT" else "Project PLT"

/-- What is printed first: which PLT it is, and where. -/
def heading (screen : Console.Screen) (o : InfoOptions) (plt : Path) : Except Failure String :=
  Console.message screen ("[bold]" ++ pltName o ++ "[/bold]  [path]" ++ plt.text ++ "[/path]")

/-- Prints what a PLT holds. -/
def printHeld (m : Machine) (o : InfoOptions) : Option FileSet → Step Unit
  | none =>
    printMessage m.screen (Console.warning m.screen "Not built yet. Run 'pltsync dialyzer' to create it.")
  | some files => do
    printMessage m.screen (Console.message m.screen s!"  [cyan]{files.size}[/cyan] files")
    if o.files then
      files.toList.forM fun f => print m.screen (Console.literal m.screen ("    " ++ f))

/-- Prints where a PLT is and what it holds. -/
def printInfo (m : Machine) (o : InfoOptions) (plt : Path) (held : Option FileSet) :
    Step ExitCode := do
  printMessage m.screen (heading m.screen o plt)
  printHeld m o held
  return .success

/-- The PLT and the files that it holds. -/
def lookUp (m : Machine) (o : InfoOptions) : Step (Path × Option FileSet) := do
  let job ← setUp m o.root []
  let held ← inSession m.screen (job.keeper.read (pltOf o job))
  return (pltOf o job, held)

/-- The command. -/
def info (m : Machine) (o : InfoOptions) : Step ExitCode :=
  orReport m (lookUp m o) fun (plt, held) => printInfo m o plt held

end PltKeeper.Command
