import PltKeeper.Application.Registry
import PltKeeper.Application.Project
import PltKeeper.FileSet.Basic

/-!
From application names to files. `resolve` gives the files that a PLT must hold for a list of names;
names of the project's own applications are passed over, since their files belong to the analysis
and not to the PLT. The first name that cannot be resolved decides the failure.
-/

namespace PltKeeper.Manifest

/-- The compiled objects in a directory, as absolute paths in increasing order. -/
def objectFiles (cwd : String) (t : FileTree) (ebin : Path) : Except Failure (List String) :=
  Except.mapError (Registry.inaccessible ebin) do
    let names ← t.list cwd ebin
    let objects ← (names.filter fun n => Path.suffixOf n = objectExtension).filterM fun n =>
      t.isFile cwd (ebin / ⟨.relative, [n]⟩)
    let files := objects.map fun n => (Path.parse cwd / (ebin / ⟨.relative, [n]⟩)).text
    return files.mergeSort fun a b => decide (a ≤ b)

/-- The compiled objects of an application. -/
def appFiles (r : Registry) (cwd : String) (t : FileTree) (name : String) :
    Except Failure (List String) := do
  match ← r.locate cwd t name with
  | some ebin => objectFiles cwd t ebin
  | none => .error (.tool (.unknownApplication name))

/-- The application that a value names. -/
def nameOf : Json → Except Failure String
  | .str s => .ok s
  | .arr _ => .error (.badType "unhashable type: 'list'")
  | .obj _ => .error (.badType "unhashable type: 'dict'")
  | value => .error (.tool (.unknownApplication value.display))

/-- The files of the named applications that are not in `passed`, which holds the project's own and
those already resolved. -/
def filesOf (r : Registry) (cwd : String) (t : FileTree) (passed : List String) :
    List Json → Except Failure (List String)
  | [] => .ok []
  | value :: rest => do
    let name ← nameOf value
    if name ∈ passed then filesOf r cwd t passed rest
    else
      let files ← appFiles r cwd t name
      return files ++ (← filesOf r cwd t (name :: passed) rest)

/-- The files of every named application that the project does not build itself. -/
def resolve (r : Registry) (cwd : String) (t : FileTree) (names : List Json)
    (apps : List ProjectApp) : Except Failure FileSet := do
  return FileSet.of cwd (← filesOf r cwd t (apps.map (·.name)) names)

/-- The files of the project's own applications. -/
def projectFiles (cwd : String) (t : FileTree) (apps : List ProjectApp) :
    Except Failure FileSet := do
  let files ← apps.mapM fun app => do
    if ← t.isDir cwd app.ebin then objectFiles cwd t app.ebin
    else .error (.tool (.unknownApplication app.name))
  return FileSet.of cwd files.flatten

end PltKeeper.Manifest
