import PltKeeper.Command.Machine

/-!
What happens when a command fails in a way that it does not report itself: the failure is logged,
added to the error log of the project and shown, and the command ends as after a fatal error.
-/

namespace PltKeeper.Command

/-- The error log of a project. -/
def errorLogPath (root : Path) : Path := (root / Config.stateDir).child "error.log"

/-- A failure as one line shows it. -/
def crashText (e : Failure) : String := e.kind ++ ": " ++ e.message

/-- The line that separates entries of the error log. -/
def ruler : String := String.ofList (List.replicate 80 '=')

/-- What stands before the name of the command in an entry. -/
def entryMark : String := "] Error in command: "

/-- An entry of the error log, part by part. -/
def logEntry (m : Machine) (command : String) (e : Failure) : List String :=
  ["\n" ++ ruler ++ "\n", "[" ++ m.now ++ entryMark ++ command ++ "\n", ruler ++ "\n",
    crashText e ++ "\n\n", m.traceOf e, ruler ++ "\n\n"]

/-- Reads entries from the parts of an error log between rulers: a head with the name of a command,
then what failed. -/
def entriesOf : List String → List (String × String)
  | [] => []
  | head :: rest =>
    match head.splitOn entryMark, rest with
    | [_, command], body :: rest =>
      let first (s : String) (mark : String) : String := ((s.splitOn mark).head?).getD ""
      (first command "\n", first body "\n\n") :: entriesOf rest
    | _, rest => entriesOf rest

/-- The commands that failed and what failed, as an error log says. -/
def logEntries (content : String) : List (String × String) :=
  entriesOf (content.splitOn (ruler ++ "\n"))

/-- Adds an entry to the error log, which is made if it is not there. -/
def writeEntry (m : Machine) (root : Path) (command : String) (e : Failure) (t : FileTree) :
    Except Failure Unit × FileTree :=
  let file := errorLogPath root
  match t.makeDirs m.host.cwd file.parent with
  | (.error e, t) => (.error e, t)
  | (.ok _, t) => t.appendTexts m.host.cwd file m.host.stops? (logEntry m command e)

/-- Deals with a failure that a command did not report; says what to show. That the operating system
refuses the entry in the error log does not matter; any other failure to write it comes out. -/
def crash (m : Machine) (root command : String) (e : Failure) : Step String := fun s =>
  let record : LogRecord := ⟨.error, "Command '" ++ command ++ "' failed: " ++ e.message⟩
  let root := Path.parse root
  let (written, t) := writeEntry m root command e s.tree
  let s := { s with tree := t, log := s.log ++ [record] }
  let shown := "Error: " ++ crashText e
  match written with
  | .ok _ =>
    .ok (shown ++ "\n\nFull traceback logged to: " ++ (errorLogPath root).text ++ "\n") s
  | .error (.system _) => .ok (shown ++ "\n") s
  | .error e => .error e s

end PltKeeper.Command
