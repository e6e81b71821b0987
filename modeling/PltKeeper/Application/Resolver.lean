import PltKeeper.Application.Manifest
import PltKeeper.Session

/-!
Resolving application names within a session, whose search path says where dependencies are. A scope
puts directories at the front of the search path for the time of an action.
-/

namespace PltKeeper

/-- What resolving works with besides the session. -/
structure Resolver where
  /-- The working directory. -/
  cwd : String
  /-- The directory that holds the runtime's applications. -/
  libRoot : Option Path := none
  deriving Inhabited

namespace Resolver

variable {σ : Type} (r : Resolver)

/-- Where applications are sought at this moment. -/
def registry (s : Session σ) : Registry := ⟨s.searchPath, r.libRoot⟩

/-- A result that the tree and the search path decide. -/
def look {α : Type} (f : Registry → FileTree → Except Failure α) : Act σ α := fun s =>
  match f (r.registry s) s.tree with
  | .ok a => .ok a s
  | .error e => .error e s

/-- The directory of an application's compiled objects. -/
def locate (name : String) : Act σ (Option Path) := r.look fun g t => g.locate r.cwd t name

/-- The compiled objects of an application. -/
def appFiles (name : String) : Act σ (List String) :=
  r.look fun g t => Manifest.appFiles g r.cwd t name

/-- The files of the named applications that are not among the project's own. The names are looked
at one by one, so that a value that is no list of them is a fault of this step. -/
def resolve (names : Json) (apps : List ProjectApp) : Act σ FileSet := do
  Act.info "Resolving files..."
  r.look fun g t => do Manifest.resolve g r.cwd t (← names.elements) apps

/-- The files of the project's own applications. -/
def ownFiles (apps : List ProjectApp) : Act σ FileSet := do
  Act.info "Resolving files..."
  r.look fun _ t => Manifest.projectFiles r.cwd t apps

end Resolver

namespace Act

/-- Does something with further directories at the front of the search path, which is afterwards
what it was before, however the action ends. -/
def withSearchPath {σ α : Type} (paths : List Path) (act : Act σ α) : Act σ α := fun s =>
  match act { s with searchPath := paths ++ s.searchPath } with
  | .ok a s' => .ok a { s' with searchPath := s.searchPath }
  | .error e s' => .error e { s' with searchPath := s.searchPath }

end Act

/-- Scopes of the search path that are open, with what to go back to when one is left. -/
structure SearchScopes where
  /-- The search path. -/
  current : List Path
  /-- The search paths before each open scope, that of the innermost scope first. -/
  saved : List (List Path) := []
  deriving DecidableEq, Repr, Inhabited

namespace SearchScopes

/-- Opens a scope: its directories come first. -/
def enter (s : SearchScopes) (paths : List Path) : SearchScopes :=
  ⟨paths ++ s.current, s.current :: s.saved⟩

/-- Leaves the innermost scope, if one is open, normally or by a failure. -/
def leave (s : SearchScopes) : SearchScopes :=
  match s.saved with
  | before :: saved => ⟨before, saved⟩
  | [] => s

end SearchScopes

end PltKeeper
