import PltKeeper.Plt.Keeper
import PltKeeper.FileSet.Delta

/-!
Bringing a PLT to exactly the required files: one build if it is not there, else what is no longer
required is removed, what stays is checked and what is missing is added, in this order. Removal
comes first so that the PLT does not grow before it shrinks, and the check before the addition so
that nothing is put on top of stale entries. An analysis of no files is skipped.
-/

namespace PltKeeper.Keeper

variable {σ : Type} (k : Keeper σ)

/-- How a phase that failed is recorded: errors that the tool reports mark it. -/
def failedStatus : Failure → PhaseStatus
  | .tool _ => .failed
  | _ => .success

/-- Records the phase that an action is, whatever comes of it. -/
def recordPhase (phase : Phase) (act : Act σ Nat) : Act σ Nat := fun s =>
  match act s with
  | .ok n s => .ok n { s with phases := s.phases ++ [{ phase with warnings := n }] }
  | .error e s =>
    .error e { s with phases := s.phases ++ [{ phase with status := failedStatus e }] }

/-- Runs one analysis and reports its warnings; says how many there were. -/
def runPhase (a : Analysis) (plt : Path) (files : List String) : Act σ Nat :=
  let files := (FileSet.of k.cwd files).toList
  if files.isEmpty then return 0
  else recordPhase { name := a.name, plt := plt.text, files := files.length } do
    let ds ← k.analyze a files plt
    k.report ds

/-- Builds a PLT, in a directory that is made if it is not there. -/
def build (plt : Path) (files : List String) : Act σ Nat := do
  let files := FileSet.of k.cwd files
  Act.restate (σ := σ) (Act.changePartly fun t => t.makeDirs k.cwd plt.parent)
    fun e => .inaccessible plt.parent (.system e)
  Act.info s!"Adding {files.size} files to {plt}..."
  k.runPhase .build plt files.toList

/-- Runs an analysis on a part of a delta, unless it is empty. -/
def part (a : Analysis) (plt : Path) (files : FileSet) (message : String) : Act σ Nat := do
  if files.isEmpty then return 0
  Act.info message
  k.runPhase a plt files.toList

/-- Brings a PLT from the files it holds to the files required; says how many warnings there
were. -/
def sync (plt : Path) (held required : FileSet) : Act σ Nat := do
  let delta := Delta.between held required
  let removed ← k.part .remove plt delta.remove
    s!"Removing {delta.remove.size} files from {plt}..."
  let checked ← k.part .check plt delta.check
    s!"Checking {delta.check.size} files in {plt}..."
  let added ← k.part .add plt delta.add
    s!"Adding {delta.add.size} files to {plt}..."
  return removed + checked + added

end PltKeeper.Keeper
