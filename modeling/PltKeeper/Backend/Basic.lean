import PltKeeper.Analysis.Diagnostic
import PltKeeper.Analysis.Request
import PltKeeper.FileSet.Basic
import PltKeeper.Tree.Access

/-!
The boundary to whatever analyses files. A backend is asked two things only: which files a PLT
holds, and to run one analysis. It works on the file tree and may keep a state of its own; both
survive a failure.
-/

namespace PltKeeper

/-- What a backend answers, with the tree and the state it leaves behind. -/
structure Reply (σ α : Type) where
  /-- The answer, or what went wrong. -/
  result : Except Failure α
  /-- The tree afterwards. -/
  tree : FileTree
  /-- The backend's state afterwards. -/
  state : σ

/-- Something that analyses files. -/
structure Backend (σ : Type) where
  /-- The files that a PLT holds, or nothing if it is not there. -/
  query : Path → FileTree → σ → Reply σ (Option FileSet)
  /-- Runs one analysis and returns the warnings it printed. -/
  analyze : Options → FileTree → σ → Reply σ (List Diagnostic)

end PltKeeper
