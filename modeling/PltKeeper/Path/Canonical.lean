import PltKeeper.Path.Basic

/-!
Canonical keys. A PLT records its files under absolute texts in which `..` has been resolved by
removing the component before it, so that two spellings of a path share one key.
-/

namespace PltKeeper.Path

/-- Removes every `..` together with the component before it. One at the front has nothing to
remove and disappears, as it does at the root of a file system. -/
def collapse (parts : List String) : List String :=
  (parts.foldl (fun kept part => if part = ".." then kept.tail else part :: kept) []).reverse

/-- The absolute path that a text names, seen from the working directory. -/
def absolute (cwd file : String) : Path := parse cwd / parse file

/-- The key of a file: its absolute path without `..`. -/
def canonical (cwd file : String) : String :=
  let p := absolute cwd file
  text { p with parts := collapse p.parts }

end PltKeeper.Path
