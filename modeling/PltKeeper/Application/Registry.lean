import PltKeeper.Application.Directory
import PltKeeper.Tree.Access

/-!
Where applications are found: first in the search path, a list of `ebin` directories, then below the
library root, where of several versions the highest is taken. `locate` reads the tree and changes
nothing.
-/

namespace PltKeeper

/-- Where applications are sought. -/
structure Registry where
  /-- Directories of compiled objects, sought first, in this order. -/
  searchPath : List Path := []
  /-- The directory that holds a directory for every application of the runtime. -/
  libRoot : Option Path := none
  deriving DecidableEq, Repr, Inhabited

/-- The last component of every directory of compiled objects. -/
def ebinName : String := "ebin"

/-- The ending of the names of compiled objects. -/
def objectExtension : String := ".beam"

/-- An application directory below the library root that matches a name. -/
structure Candidate where
  /-- The ranks of its version. -/
  key : List Int
  /-- The name of the directory. -/
  directory : String
  deriving DecidableEq, Repr

namespace Candidate

/-- Lexicographic order on ranks. -/
def keyLt : List Int → List Int → Bool
  | [], [] => false
  | [], _ :: _ => true
  | _ :: _, [] => false
  | a :: as, b :: bs => if a = b then keyLt as bs else decide (a < b)

/-- Candidates are ordered by version, those of equal versions by the directory's name. -/
def lt (a b : Candidate) : Bool :=
  if a.key = b.key then decide (a.directory < b.directory) else keyLt a.key b.key

/-- The highest of the candidates. -/
def highest? : List Candidate → Option Candidate
  | [] => none
  | c :: rest => some (rest.foldl (fun best c => if best.lt c then c else best) c)

end Candidate

namespace Registry

/-- The first entry of the search path that belongs to the application. -/
def inSearchPath? (r : Registry) (name : String) : Option Path :=
  r.searchPath.find? fun ebin =>
    ebin.name = ebinName && (AppDirectory.ofName ebin.parent.name).name = name

/-- The candidates for an application among the directories below the library root. -/
def candidates (name : String) (directories : List String) : Except Failure (List Candidate) :=
  (directories.filter fun d => (AppDirectory.ofName d).name = name).mapM fun d => do
    return ⟨← AppDirectory.versionKey (AppDirectory.ofName d).version, d⟩

/-- The failure to access a path, if the operating system is its cause. -/
def inaccessible (path : Path) : Failure → Failure
  | .system e => .tool (.inaccessible path (.system e))
  | e => e

/-- The directory of an application below the library root. -/
def inLibRoot? (r : Registry) (cwd : String) (t : FileTree) (name : String) :
    Except Failure (Option Path) := do
  match r.libRoot with
  | none => return none
  | some root =>
    if ← t.isDir cwd root then
      let directories ← (t.list cwd root).mapError (inaccessible root)
      let found ← candidates name directories
      return (Candidate.highest? found).map fun c => root / ⟨.relative, [c.directory, ebinName]⟩
    else return none

/-- The directory of an application's compiled objects. If the place where it should be is no
directory, it is nowhere. -/
def locate (r : Registry) (cwd : String) (t : FileTree) (name : String) :
    Except Failure (Option Path) := do
  let place ← match r.inSearchPath? name with
    | some ebin => pure (some ebin)
    | none => r.inLibRoot? cwd t name
  match place with
  | none => return none
  | some ebin => return if ← t.isDir cwd ebin then some ebin else none

end Registry

end PltKeeper
