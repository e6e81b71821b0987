import PltKeeper.Path.Home

/-!
Where PLTs and the warnings file are. Each PLT has a keyword that stands for its usual directory;
any other text, and every path, names a directory itself.
-/

namespace PltKeeper

/-- A directory as it is given. -/
inductive Directory
  /-- A path. -/
  | path (p : Path)
  /-- A value that is no path, by its text. It is a fault only where the directory is used. -/
  | other (text : String)
  deriving DecidableEq, Repr, Inhabited

namespace Directory

/-- The directory as it was given. -/
def text : Directory → String
  | path p => p.text
  | other text => text

/-- The path of the directory. -/
def get : Directory → Except Failure Path
  | path p => .ok p
  | other text => .error (.badType ("not a path: " ++ text))

end Directory

/-- Where a PLT is kept. -/
inductive PltLocation
  /-- A word, which may be the keyword of the PLT's usual directory. -/
  | word (s : String)
  /-- A directory. -/
  | directory (d : Directory)
  deriving DecidableEq, Repr, Inhabited

namespace PltLocation

/-- The keyword of the project PLT's usual directory, that of the project's build. -/
def localKeyword : String := "local"

/-- The keyword of the base PLT's usual directory, shared by all projects of a user. -/
def globalKeyword : String := "global"

/-- The directory that a location stands for where `keyword` stands for `usual`. -/
def resolve (host : Host) (keyword : String) (usual : Directory) :
    PltLocation → Except Failure Path
  | word s => if s = keyword then usual.get else host.expandHome (Path.parse s)
  | directory d => do host.expandHome (← d.get)

end PltLocation

namespace Plt

/-- The name of a PLT file, one for every release. -/
def fileName (stem release : String) : String := stem ++ "_" ++ release ++ "_plt"

/-- The path of the project PLT. -/
def projectPath (host : Host) (stem : String) (location : PltLocation) (baseDir : Directory)
    (release : String) : Except Failure Path := do
  let directory ← location.resolve host PltLocation.localKeyword baseDir
  return directory.child (fileName stem release)

/-- The path of the base PLT. -/
def basePath (host : Host) (stem : String) (location : PltLocation) (cacheDir : Directory)
    (release : String) : Except Failure Path := do
  let directory ← location.resolve host PltLocation.globalKeyword cacheDir
  return directory.child (fileName stem release)

/-- The path of the warnings file. -/
def warningsPath (baseDir : Path) (release : String) : Path :=
  baseDir.child (release ++ ".dialyzer_warnings")

end Plt

end PltKeeper
