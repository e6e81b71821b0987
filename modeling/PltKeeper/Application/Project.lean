import PltKeeper.Path.Home
import PltKeeper.Json.Shape

/-!
The applications that a project builds, as its configuration describes them. Which applications
depend on which is the configuration's to say; nothing is computed here.
-/

namespace PltKeeper

/-- An application that the project builds. -/
structure ProjectApp where
  /-- Its name. -/
  name : String
  /-- The directory of its compiled objects. -/
  ebin : Path
  /-- The names of the applications it depends on. -/
  applications : List String
  deriving DecidableEq, Repr, Inhabited

/-- A path seen from a root, if there is one and the path is relative. -/
def Path.under (root : Option Path) (p : Path) : Path :=
  match root with
  | some root => root / p
  | none => p

/-- Reads the description of an application. Its directory is looked at before its name. -/
def ProjectApp.ofDocument (host : Host) (root : Option Path) (data : Json) :
    Except Failure ProjectApp := do
  let ebin ← host.expandHome (← (← data.required "ebin").asPath)
  let name ← data.required "name"
  let applications ← match data with
    | .obj fields => ((Json.field? fields "applications").getD (.arr [])).elements
    | _ => .ok []
  return ⟨name.display, ebin.under root, applications.map Json.display⟩

/-- A project: its applications and where those it depends on are found. -/
structure Project where
  /-- The applications of the project. -/
  apps : List ProjectApp := []
  /-- The directories of the compiled objects of its dependencies. -/
  codePaths : List Path := []
  deriving DecidableEq, Repr, Inhabited

/-- The applications that those of the project declare, in the order of declaration. -/
def Project.dependencyApps (p : Project) : List String := p.apps.flatMap (·.applications)

end PltKeeper
