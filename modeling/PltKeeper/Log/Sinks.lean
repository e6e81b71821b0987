import PltKeeper.Failure
import PltKeeper.Log.Line
import PltKeeper.Path.Canonical
import PltKeeper.Path.Home
import PltKeeper.Text.LetterCase
import PltKeeper.Text.Template
import PltKeeper.Tree.Access

/-!
Where log messages go. The environment chooses the lowest level shown, whether messages are shown to
people or to machines, and a file that takes all but the least grave; a directory may be added that
takes what people read.
-/

namespace PltKeeper.Log

/-- The lowest rank that a sink takes, by the name of a level. -/
def threshold (name : String) : Except Failure Nat :=
  match Level.ofName? name with
  | some level => .ok level.severity
  | none => .error (.badValue ("Level '" ++ name ++ "' does not exist"))

/-- Where log messages go. -/
structure Sinks where
  /-- The lowest rank shown. -/
  lowest : Nat
  /-- Whether messages are shown to machines, on standard output. -/
  forMachines : Bool
  /-- The file that takes messages for machines. -/
  file : Option String
  /-- The file for people, and the lowest rank it takes. -/
  directory : Option (Path × Nat) := none

namespace Sinks

/-- The sinks that the environment asks for. -/
def ofHost (host : Host) : Except Failure Sinks := do
  let name := (host.valueOf? "PLTSYNC_LOG_LEVEL").getD "INFO"
  let lowest ← threshold (String.ofList (Text.upperAscii name.toList))
  let file := (host.valueOf? "PLTSYNC_LOG_FILE").bind fun f => if f = "" then none else some f
  return ⟨lowest, host.valueOf? "PLTSYNC_LOG_JSON" == some "1", file, none⟩

/-- The failure that a fault in the name of a log file amounts to. -/
def nameFault : Text.Template.Fault → Failure
  | .unknown name => .missingKey name
  | fault => .badValue fault.message

/-- The file in a log directory, by its canonical path. Its name is a text with fields, the
directory's included, and the field that it may have is the time. -/
def directoryFile (cwd now : String) (dir : Path) : Except Failure Path := do
  let name := (dir.child "pltsync.log").text
  let name ← (Text.Template.expand [("time", now)] name.toList).mapError nameFault
  return Path.parse (Path.canonical cwd (String.ofList name))

/-- Makes an empty file, with the directories above it, unless it is there. -/
def makeFile (cwd : String) (file : Path) (t : FileTree) : Except Failure Unit × FileTree :=
  match t.makeDirs cwd file.parent with
  | (.error e, t) => (.error e, t)
  | (.ok _, t) =>
    match t.append cwd file [] with
    | .ok t => (.ok (), t)
    | .error e => (.error e, t)

/-- Adds a log directory, which is made if it is not there, and its file, which is found before the
lowest rank it takes is looked at. -/
def addDirectory (s : Sinks) (cwd now : String) (dir : Path) (lowest : Except Failure Nat)
    (t : FileTree) : Except Failure Sinks × FileTree :=
  match t.makeDirs cwd dir, directoryFile cwd now dir with
  | (.error e, t), _ | (.ok _, t), .error e => (.error e, t)
  | (.ok _, t), .ok file =>
    match makeFile cwd file t with
    | (.error e, t) => (.error e, t)
    | (.ok _, t) => (lowest.map fun lowest => { s with directory := some (file, lowest) }, t)

/-- Whether a message is shown to people, on standard error. -/
def showsPeople (s : Sinks) (level : Level) : Bool := !s.forMachines && s.lowest ≤ level.severity

/-- Whether a message is shown to machines. -/
def showsMachines (s : Sinks) (level : Level) : Bool := s.forMachines && s.lowest ≤ level.severity

/-- Whether there is a file for machines and it can be written. -/
def hasFile (s : Sinks) (cwd : String) (t : FileTree) : Bool :=
  match s.file with
  | some file => (t.modifyNamed cwd file id).isOk
  | none => false

/-- Whether the file for machines takes a message. -/
def files (level : Level) : Bool := Level.debug.severity ≤ level.severity

/-- Whether the directory takes a message. -/
def keeps (s : Sinks) (level : Level) : Bool :=
  match s.directory with
  | some (_, lowest) => lowest ≤ level.severity
  | none => false

end Sinks

/-- The name of a level as people see it, eight columns wide. -/
def paddedName (level : Level) : String :=
  level.name ++ String.ofList (List.replicate (8 - level.name.length) ' ')

end PltKeeper.Log
