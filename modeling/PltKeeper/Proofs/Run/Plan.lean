import PltKeeper.Proofs.Run.Ends

/-! What a run finds when its report has begun, and the requests that follow from it. A plan is made
from the file sets and the two PLTs alone; nothing in it depends on what the backend answers later. -/
namespace PltKeeper

variable {σ : Type}

/-- The files that resolving finds, none if it fails. -/
def Act.resolved (act : Act σ FileSet) (s : Session σ) : FileSet :=
  match act s with
  | .ok files _ => files
  | .error _ _ => ∅

theorem Act.Yields.resolved {act : Act σ FileSet} {s : Session σ} {files : FileSet}
    (yields : act.Yields s files) : act.resolved s = files := by
  obtain ⟨s', ran⟩ := yields
  simp [Act.resolved, ran]

/-- What the maintenance of a run finds. -/
structure Situation where
  /-- The files that the project PLT must hold. -/
  required : FileSet
  /-- The files that the base PLT must hold. -/
  base : FileSet
  /-- The project PLT. -/
  plt : PltState
  /-- The base PLT. -/
  basePlt : PltState
  /-- What comes within reach at the base PLT's path when its directory is made. A path through `..`
  may lead nowhere before, and to a file afterwards. -/
  exposed : PltState

namespace Situation

/-- The base PLT after it has been brought up to date. Nothing is built of no files. -/
def updatedBase (w : Situation) : PltState :=
  match w.basePlt with
  | .holds _ => .holds w.base
  | .unreadable => .unreadable
  | .absent => if w.base = ∅ then w.exposed else .holds w.base

/-- The files that a fresh copy of the base PLT brings along unnoticed. -/
def stale (w : Situation) : FileSet :=
  match w.plt, w.basePlt, w.exposed with
  | .absent, .absent, .holds files => if w.base = ∅ then files else ∅
  | _, _, _ => ∅

end Situation

namespace Job

variable (j : Job σ)

/-- The situation in a session. -/
def situation (format : PltFormat) (s : Session σ) : Situation where
  required := j.requiredFiles.resolved s
  base := j.baseFiles.resolved s
  plt := s.tree.pltAt format j.keeper.cwd j.plt
  basePlt := s.tree.pltAt format j.keeper.cwd j.basePlt
  exposed := (s.tree.makeDirs j.keeper.cwd j.basePlt.parent).2.pltAt format j.keeper.cwd j.basePlt

/-- The requests that bring the base PLT up to date. -/
def plannedBase (w : Situation) : List Request :=
  .query j.basePlt ::
    match w.basePlt with
    | .holds held => j.keeper.syncRequests j.basePlt held w.base
    | .unreadable => []
    | .absent => j.keeper.ask .build j.basePlt w.base

/-- The requests that make a project PLT that is not there: from the base PLT, if it is a file by
then, and else by a build. -/
def plannedFresh (w : Situation) : List Request :=
  j.plannedBase w ++
    if w.updatedBase = .absent then j.keeper.ask .build j.plt w.required
    else j.keeper.ask .check j.plt w.base ++ j.keeper.ask .add j.plt (w.required \ w.base)

/-- The requests that bring the project PLT up to date. -/
def plannedUpdate (w : Situation) : List Request :=
  if j.settings.updatePlt.isSet then
    .query j.plt ::
      match w.plt with
      | .holds held => j.keeper.syncRequests j.plt held w.required
      | .unreadable => []
      | .absent => j.plannedFresh w
  else []

/-- The requests of success typing over the project's own files. -/
def plannedTyping (own : FileSet) : List Request :=
  if j.settings.succTypings.isSet then j.keeper.ask .successTyping j.plt own else []

/-- A request that speaks of this PLT and of no other. -/
def Concerns (j : Job σ) (plt : Path) (r : Request) : Prop :=
  r = .query plt ∨ ∃ a files, r = .analyze (j.keeper.wishes.optionsFor a files plt)

variable {j}

theorem concerns_of_ask {a : Analysis} {plt : Path} {files : FileSet} {r : Request}
    (member : r ∈ j.keeper.ask a plt files) : j.Concerns plt r := by
  unfold Keeper.ask at member
  split at member
  · cases member
  · exact .inr ⟨a, files.toList, List.mem_singleton.mp member⟩

theorem concerns_of_sync {plt : Path} {held required : FileSet} {r : Request}
    (member : r ∈ j.keeper.syncRequests plt held required) : j.Concerns plt r := by
  rcases List.mem_append.mp member with member | member
  · rcases List.mem_append.mp member with member | member
    · exact concerns_of_ask member
    · exact concerns_of_ask member
  · exact concerns_of_ask member

/-- The maintenance of a project PLT that is there speaks of no other. -/
theorem concerns_of_update {w : Situation} {held : FileSet} (there : w.plt = .holds held) {r : Request}
    (member : r ∈ j.plannedUpdate w) : j.Concerns j.plt r := by
  unfold plannedUpdate at member
  split at member
  · rw [there] at member
    rcases List.mem_cons.mp member with query | member
    · exact .inl query
    · exact concerns_of_sync member
  · cases member

theorem concerns_of_typing {own : FileSet} {r : Request} (member : r ∈ j.plannedTyping own) :
    j.Concerns j.plt r := by
  unfold plannedTyping at member
  split at member
  · exact concerns_of_ask member
  · cases member

end Job

end PltKeeper
