import PltKeeper.Proofs.Backend.Exact
import PltKeeper.Proofs.Run.Maintenance

/-! What a run leaves as it is, byte for byte. A phase touches the tree through its analysis and its report, and the
report adds to the warnings file, which is no PLT; so PLTs that an analysis leaves are left by the phase, and those
that all phases leave are left by the run. Two cases come of it. A run that finds just what is required in the project
PLT has nothing to write, so that all PLTs stay. A run that does not have to make the project PLT works on that alone,
so that the base PLT stays. -/
namespace PltKeeper

variable {σ : Type}

/-- The files where PLTs are kept are the same, byte for byte. -/
def FileTree.SameBytes (cwd : String) (plts : List Path) (t t' : FileTree) : Prop :=
  ∀ plt ∈ plts, t'.bytesAt? cwd plt = t.bytesAt? cwd plt

/-- They are the same in two sessions. -/
abbrev Session.SameBytes (cwd : String) (plts : List Path) (s s' : Session σ) : Prop :=
  s.tree.SameBytes cwd plts s'.tree

/-- A backend that does not touch these PLTs in an analysis that writes none. -/
def Backend.OnlyReads (b : Backend σ) (cwd : String) (plts : List Path) : Prop :=
  ∀ o t st, o.analysis.writesPlt = false → FileTree.SameBytes cwd plts t (b.analyze o t st).tree

/-- A backend that touches none of these PLTs but the one that an analysis is given to write. -/
def Backend.Confined (b : Backend σ) (cwd : String) (plts : List Path) : Prop :=
  ∀ o t st, ∀ plt ∈ plts, (∀ written, o.outputPlt = some written → ¬ t.SameFile cwd plt written) →
    (b.analyze o t st).tree.bytesAt? cwd plt = t.bytesAt? cwd plt

namespace FileTree.SameBytes

variable {cwd : String} {plts : List Path} {t t' t'' : FileTree}

theorem refl (t : FileTree) : SameBytes cwd plts t t := fun _ _ => rfl

theorem of_eq (same : t' = t) : SameBytes cwd plts t t' := same ▸ .refl t'

theorem trans (first : SameBytes cwd plts t t') (second : SameBytes cwd plts t' t'') : SameBytes cwd plts t t'' :=
  fun plt member => (second plt member).trans (first plt member)

theorem of_modify {output : Path} {change : List UInt8 → List UInt8}
    (apart : ∀ plt ∈ plts, ¬ t.SameFile cwd plt output) (done : t.modify cwd output change = .ok t') :
    SameBytes cwd plts t t' :=
  fun plt member => (bytesAt?_modify done).2.2 plt (apart plt member)

end FileTree.SameBytes

open FileTree

/-- The exact backend writes in no other analysis. -/
theorem Exact.onlyReads {cwd : String} {fails : Nat → Option Failure} {finds : List Diagnostic} {plts : List Path} :
    (backend cwd fails finds).OnlyReads cwd plts := by
  intro o t calls reading
  rcases analyze_cases o t calls with ⟨same, -⟩ | ⟨writing, -⟩
  · exact .of_eq same
  · exact nomatch writing.symm.trans reading

/-- Nor does it write any other PLT. -/
theorem Exact.confined {cwd : String} {fails : Nat → Option Failure} {finds : List Diagnostic} {plts : List Path} :
    (backend cwd fails finds).Confined cwd plts := by
  intro o t calls plt _ apart
  rcases analyze_cases o t calls with ⟨same, -⟩ | ⟨-, -, written, bytes, given, wrote⟩
  · rw [same]
  · exact (bytesAt?_modify wrote).2.2 plt (apart written given)

namespace Keeper

variable {k : Keeper σ} {format : PltFormat} {plts spared : List Path} {plt : Path} {a : Analysis}
  {held required : FileSet}

/-- An analysis of a PLT leaves these PLTs, whatever files it is for. -/
def Passes (k : Keeper σ) (spared : List Path) (a : Analysis) (plt : Path) : Prop :=
  ∀ files t st, SameBytes k.cwd spared t (k.backend.analyze (k.wishes.optionsFor a files plt) t st).tree

theorem passes_of_reading (onlyReads : k.backend.OnlyReads k.cwd spared) (reading : a.writesPlt = false) (plt : Path) :
    k.Passes spared a plt := fun _ t st => onlyReads _ t st reading

/-- An analysis of one PLT leaves the others, whatever it is. -/
theorem passes_of_confined (confined : k.backend.Confined k.cwd plts) (within : ∀ other ∈ spared, other ∈ plts)
    (apart : ∀ other ∈ spared, ∀ t : FileTree, ¬ t.SameFile k.cwd other plt) (a : Analysis) : k.Passes spared a plt := by
  refine fun files t st other member => confined _ t st other (within other member) fun written given => ?_
  have same : written = plt := by
    simp only [Wishes.optionsFor] at given
    split at given <;> cases given
    rfl
  exact same ▸ apart other member t

section
variable (keeps : k.Keeps format plts) (within : ∀ other ∈ spared, other ∈ plts)
include keeps within

/-- A phase leaves the PLTs that its analysis leaves. -/
theorem runPhase_leaves (passes : k.Passes spared a plt) (files : List String) (s : Session σ) :
    (k.runPhase a plt files).Moves (Session.SameBytes k.cwd spared) s := by
  let options := k.wishes.optionsFor a (FileSet.of k.cwd files).toList plt
  let reply := k.backend.analyze options s.tree s.backend
  have same : SameBytes k.cwd spared s.tree reply.tree := passes _ s.tree s.backend
  unfold runPhase
  simp only
  refine Act.ensures_ite.mpr ⟨fun _ => Act.ensures_pure.mpr (.refl s.tree), fun _ => ?_⟩
  rw [ensures_recordPhase, Act.ensures_bind, ensures_analyze (rfl : _ = options) (rfl : _ = reply)]
  refine ⟨fun ds _ => ?_, fun _ _ => same⟩
  have left {ds : List Diagnostic} {t : FileTree} {r : Except Failure Unit} (filed : k.filing ds reply.tree = (r, t)) :
      SameBytes k.cwd spared reply.tree t := by
    obtain rfl | ⟨added, appended⟩ := tree_of_filing filed
    · exact .refl _
    · exact .of_modify (fun other member => keeps.apart other (within other member) _) appended
  exact ensures_report (fun _ => same) (fun t filed => same.trans (left filed)) fun e t failed => same.trans (left failed)

/-- So does a part of a sync, and one that is empty leaves all of them. -/
theorem part_leaves {files : FileSet} (idle : files = ∅ ∨ k.Passes spared a plt) (message : String) (s : Session σ) :
    (k.part a plt files message).Moves (Session.SameBytes k.cwd spared) s := by
  unfold part
  refine Act.ensures_ite.mpr ⟨fun _ => Act.ensures_pure.mpr (.refl s.tree), fun some => ?_⟩
  rcases idle with none | passes
  · exact absurd (FileSet.isEmpty_iff.mpr none) some
  · exact Act.ensures_bind.mpr (Act.ensures_info.mpr (runPhase_leaves keeps within passes _ _))

theorem sync_leaves (removes : held \ required = ∅ ∨ k.Passes spared .remove plt) (checks : k.Passes spared .check plt)
    (adds : required \ held = ∅ ∨ k.Passes spared .add plt) (s : Session σ) :
    (k.sync plt held required).Moves (Session.SameBytes k.cwd spared) s := by
  unfold sync Delta.between
  refine (part_leaves keeps within removes _ s).bind .trans fun _ s₁ _ => ?_
  refine (part_leaves keeps within (.inr checks) _ s₁).bind .trans fun _ s₂ _ => ?_
  refine (part_leaves keeps within adds _ s₂).bind .trans fun _ s₃ _ => ?_
  exact Act.ensures_pure.mpr (.refl s₃.tree)

end

end Keeper

namespace Job

variable {j : Job σ} {format : PltFormat} {s s₁ r : Session σ} {spared : List Path} {held required : FileSet}

section
variable (keeps : j.keeper.Keeps format j.plts) (within : ∀ other ∈ spared, other ∈ j.plts)
include keeps

/-- The maintenance of a PLT that is there leaves the PLTs that its sync leaves. -/
theorem updateProject_leaves (holds : s.tree.pltAt format j.keeper.cwd j.plt = .holds held)
    (syncs : ∀ required, j.requiredFiles.Yields s required → ∀ s',
      (j.keeper.sync j.plt held required).Moves (Session.SameBytes j.keeper.cwd spared) s') :
    j.updateProject.Moves (Session.SameBytes j.keeper.cwd spared) s := by
  unfold updateProject
  refine Act.ensures_ite.mpr ⟨fun _ => Act.ensures_pure.mpr (.refl s.tree), fun _ => ?_⟩
  refine Act.ensures_bind.mpr (Act.ensures_info.mpr ?_)
  let begun : Session σ := { s with log := s.log ++ [⟨.info, "Updating plt..."⟩] }
  refine ((Act.ensures_ran j.requiredFiles begun).and (j.requiredFiles_ends begun)).bind
    (fun _ _ ⟨_, logged⟩ => .of_eq logged.tree) ?_
  rintro required s₁ ⟨resolved, logged, -⟩
  have yields : j.requiredFiles.Yields s required := requiredFiles_yields_of_same j ⟨s₁, resolved⟩ rfl rfl
  have sameTree : s₁.tree = s.tree := logged.tree
  simp only [Session.SameBytes, ← sameTree]
  rw [← sameTree] at holds
  refine (Keeper.read_ends keeps j.plt_mem s₁).bind (fun _ _ asked => .of_eq asked.2) ?_
  rintro answer s₂ ⟨-, same, state⟩
  rw [← same]
  cases answer with
  | none => exact nomatch holds.symm.trans state
  | some held' =>
    obtain rfl : held = held' := PltState.holds.inj (holds.symm.trans state)
    exact syncs required yields s₂

include within

theorem successTyping_leaves (passes : j.keeper.Passes spared .successTyping j.plt) (s : Session σ) :
    j.successTyping.Moves (Session.SameBytes j.keeper.cwd spared) s := by
  unfold successTyping
  refine Act.ensures_ite.mpr ⟨fun _ => Act.ensures_pure.mpr (.refl s.tree), fun _ => ?_⟩
  refine Act.ensures_bind.mpr (Act.ensures_info.mpr ?_)
  refine (j.ownFiles_ends _).bind (fun _ _ logged => .of_eq logged.tree) ?_
  rintro own _ ⟨⟨records, rfl⟩, -⟩
  exact Act.ensures_bind.mpr (Act.ensures_info.mpr (Keeper.runPhase_leaves keeps within passes _ _))

end

/-- A PLT that is there, or that no directory that is made can bring within reach. -/
def Steady (j : Job σ) (t : FileTree) (plt : Path) : Prop :=
  t.bytesAt? j.keeper.cwd plt ≠ none ∨ t.WellFormed ∧ ".." ∉ plt.parts

/-- A project PLT that is there is what it was when the report has begun. -/
theorem holds_of_begun (keeps : j.keeper.Keeps format j.plts) (begins : j.Begins r s₁)
    (holds : r.tree.pltAt format j.keeper.cwd j.plt = .holds held) :
    s₁.tree.pltAt format j.keeper.cwd j.plt = .holds held := by
  obtain ⟨output, begun⟩ := begins
  obtain ⟨-, same⟩ := (Keeper.beginReport_ends keeps (j.opened r)).of_ok begun
  have grown := makeDirs_grows r.tree j.keeper.cwd j.keeper.output.parent
  have there : r.tree.pltAt format j.keeper.cwd j.plt ≠ .absent := by simp [holds]
  exact ((same j.plt j.plt_mem).trans (grown.pltAt there)).trans holds

/-- A run leaves the PLTs, byte for byte, that its maintenance and its success typing leave. -/
theorem run_leaves (keeps : j.keeper.Keeps format j.plts) (within : ∀ other ∈ spared, other ∈ j.plts)
    (updates : ∀ r₁, j.Begins r r₁ → j.updateProject.Moves (Session.SameBytes j.keeper.cwd spared) r₁)
    (passes : j.keeper.Passes spared .successTyping j.plt) : ∀ plt ∈ spared, j.Steady r.tree plt →
      (j.run.after r).tree.bytesAt? j.keeper.cwd plt = r.tree.bytesAt? j.keeper.cwd plt := by
  let kept (s' : Session σ) : Prop := ∀ plt ∈ spared, j.Steady r.tree plt →
    s'.tree.bytesAt? j.keeper.cwd plt = r.tree.bytesAt? j.keeper.cwd plt
  have dirs : ∀ plt ∈ spared, j.Steady r.tree plt →
      (r.tree.makeDirs j.keeper.cwd j.keeper.output.parent).2.bytesAt? j.keeper.cwd plt =
        r.tree.bytesAt? j.keeper.cwd plt := by
    intro plt _ steady
    have grown := makeDirs_grows r.tree j.keeper.cwd j.keeper.output.parent
    rcases steady with there | ⟨formed, plain⟩
    · obtain ⟨bytes, found⟩ := Option.ne_none_iff_exists'.mp there
      rw [found, grown.bytesAt? found]
    · exact grown.bytesAt?_plain formed plain
  have begins : j.keeper.beginReport.Ensures (j.opened r) (fun _ s' => kept s') fun _ s' => kept s' := by
    refine Keeper.ensures_beginReport (fun t written plt member steady => ?_) fun _ => dirs
    have filed : SameBytes j.keeper.cwd spared _ t :=
      .of_modify (fun plt member => keeps.apart plt (within plt member) _) written
    exact (filed plt member).trans (dirs plt member steady)
  have steps : j.steps.Ensures (j.opened r) (fun _ s' => kept s') fun _ s' => kept s' := by
    unfold Job.steps
    refine ((Act.ensures_ran _ _).and begins).bind (fun _ _ stopped => stopped.2) ?_
    rintro output r₁ ⟨begun, before⟩
    have later : ∀ {s'}, SameBytes j.keeper.cwd spared r₁.tree s'.tree → kept s' :=
      fun same plt member steady => (same plt member).trans (before plt member steady)
    have updates := updates r₁ ⟨output, begun⟩
    refine Act.Ensures.mono (updates.bind .trans fun maintenance r₂ _ => ?_) (fun _ _ => later) fun _ _ => later
    refine (successTyping_leaves keeps within passes r₂).bind .trans fun analysis r₃ _ => ?_
    exact Act.ensures_pure.mpr (.refl r₃.tree)
  obtain ⟨path, log, handedOn⟩ := j.after_run r
  rw [handedOn]
  exact steps.after

/-- A run that finds just what is required leaves all PLTs. -/
theorem run_leaves_plts (keeps : j.keeper.Keeps format j.plts)
    (onlyReads : j.keeper.backend.OnlyReads j.keeper.cwd j.plts)
    (resolves : ∀ r₁, j.Begins r r₁ → j.requiredFiles.Yields r₁ required)
    (complete : r.tree.pltAt format j.keeper.cwd j.plt = .holds required) :
    ∀ plt ∈ j.plts, j.Steady r.tree plt →
      (j.run.after r).tree.bytesAt? j.keeper.cwd plt = r.tree.bytesAt? j.keeper.cwd plt := by
  refine run_leaves keeps (fun _ member => member) (fun r₁ begins => ?_) (Keeper.passes_of_reading onlyReads rfl j.plt)
  refine updateProject_leaves keeps (holds_of_begun keeps begins complete) fun again yields s' => ?_
  obtain rfl : again = required := yields.resolved.symm.trans (resolves r₁ begins).resolved
  have nothing : again \ again = ∅ := (FileSet.delta_of_subset fun _ member => member).1
  exact Keeper.sync_leaves keeps (fun _ member => member) (.inl nothing) (Keeper.passes_of_reading onlyReads rfl j.plt)
    (.inl nothing) s'

/-- A run that is not to bring PLTs up to date, or finds the project PLT, leaves the base PLT. -/
theorem run_leaves_basePlt (keeps : j.keeper.Keeps format j.plts)
    (confined : j.keeper.backend.Confined j.keeper.cwd j.plts)
    (apart : ∀ t : FileTree, ¬ t.SameFile j.keeper.cwd j.basePlt j.plt)
    (idle : j.settings.updatePlt.isSet = false ∨ ∃ held, r.tree.pltAt format j.keeper.cwd j.plt = .holds held)
    (steady : j.Steady r.tree j.basePlt) :
    (j.run.after r).tree.bytesAt? j.keeper.cwd j.basePlt = r.tree.bytesAt? j.keeper.cwd j.basePlt := by
  have within : ∀ other ∈ [j.basePlt], other ∈ j.plts := List.forall_mem_singleton.mpr j.basePlt_mem
  have passes := Keeper.passes_of_confined confined within (List.forall_mem_singleton.mpr apart)
  refine run_leaves keeps within (fun r₁ begins => ?_) (passes .successTyping) j.basePlt List.mem_cons_self steady
  rcases idle with off | ⟨held, holds⟩
  · unfold updateProject
    rw [if_pos (by rw [off]; rfl)]
    exact Act.ensures_pure.mpr (.refl r₁.tree)
  · exact updateProject_leaves keeps (holds_of_begun keeps begins holds) fun required _ s' =>
      Keeper.sync_leaves keeps within (.inr (passes .remove)) (passes .check) (.inr (passes .add)) s'

end Job

end PltKeeper
