import PltKeeper.Proofs.Plt.Service
import PltKeeper.Proofs.Run.Contents

/-! What a run that was cut short leaves, and what the next one makes of it. Wherever a run stops, the
project PLT is as it was before, or holds the base set, or what it held of the required files, or all
of these; no PLT is left unreadable. So nothing has to be cleaned up: a later run finds one of the
states that a run may begin with, and if nothing stands in its way it comes through. -/
namespace PltKeeper.Job

variable {σ : Type} {host : Host} {backend : Backend σ} {settings : Settings} {project : Project}
  {runtime : OtpRuntime} {j : Job σ} {format : PltFormat} {w : Situation} {s s₁ : Session σ}
  {t' room : FileTree} {base required : FileSet}

/-! ## Where a run may stop -/

/-- What a run from this session may leave in place of the project PLT. -/
def Leaves (j : Job σ) (format : PltFormat) (s : Session σ) (t' : FileTree) : Prop :=
  t'.pltAt format j.keeper.cwd j.plt = s.tree.pltAt format j.keeper.cwd j.plt ∨
    ∃ s₁ required base, j.Begins s s₁ ∧ j.requiredFiles.Yields s₁ required ∧ j.baseFiles.Yields s₁ base ∧
      (t'.pltAt format j.keeper.cwd j.plt = .holds base ∨
        (∃ old, s.tree.pltAt format j.keeper.cwd j.plt = .holds old ∧
          t'.pltAt format j.keeper.cwd j.plt = .holds (old ∩ required)) ∨
        t'.pltAt format j.keeper.cwd j.plt = .holds required)

/-- No PLT is unreadable. -/
def Readable (j : Job σ) (format : PltFormat) (t : FileTree) : Prop :=
  ∀ plt ∈ j.plts, t.pltAt format j.keeper.cwd plt ≠ .unreadable

/-- What the maintenance leaves behind is what a run may leave. -/
theorem Recoverable.leaves (recoverable : j.Recoverable format (j.situation format s₁) t')
    (begun : j.Begins s s₁) (same : FileTree.SamePlts format j.keeper.cwd j.plts s.tree s₁.tree)
    (readable : j.Readable format s.tree)
    (known : j.requiredFiles.Yields s₁ (j.situation format s₁).required ∨ t' = s₁.tree) :
    j.Leaves format s t' ∧ j.Readable format t' := by
  have before : (j.situation format s₁).plt = s.tree.pltAt format j.keeper.cwd j.plt :=
    same j.plt j.plt_mem
  constructor
  · rcases known with yields | unchanged
    · have baseYields := (finds_situation format yields rfl).base s₁ rfl rfl
      rcases recoverable.plt with asBefore | rest
      · exact .inl (asBefore.trans before)
      · rw [before] at rest
        exact .inr ⟨s₁, _, _, begun, yields, baseYields, rest⟩
    · rw [unchanged]
      exact .inl before
  · intro plt member
    rcases mem_plts.mp member with rfl | rfl
    · rcases recoverable.plt with asBefore | base | ⟨old, _, shrunk⟩ | complete
      · rw [asBefore, before]
        exact readable _ member
      · simp [base]
      · simp [shrunk]
      · simp [complete]
    · exact recoverable.readable

/-- Wherever the steps of a run stop, or if they come through, they leave what a run may leave. -/
theorem steps_leave (keeps : j.keeper.Keeps format j.plts)
    (cleanly : j.keeper.backend.FailsCleanly format j.keeper.cwd j.plts)
    (updating : j.settings.updatePlt.isSet = true) (calm : j.Calm format s.tree) :
    j.steps.Ensures (j.opened s) (fun _ s' => j.Leaves format s s'.tree ∧ j.Calm format s'.tree)
      fun _ s' => j.Leaves format s s'.tree ∧ j.Calm format s'.tree := by
  have readable : j.Readable format s.tree := calm.readable
  have unmoved := calm.samePlts_makeDirs j.keeper.output.parent
  unfold steps
  have begins := (Act.ensures_ran j.keeper.beginReport (j.opened s)).and (Keeper.beginReport_ends keeps _)
  refine begins.bind ?_ ?_
  · rintro e s' ⟨-, follows, same⟩
    have same := unmoved.trans same
    exact ⟨.inl (same j.plt j.plt_mem), calm.later (follows.formed calm.formed) same.unharmed⟩
  rintro output s₁ ⟨begun, begins, same⟩
  have same := unmoved.trans same
  have calm := calm.later (begins.formed calm.formed) same.unharmed
  refine (updateProject_ends keeps updating rfl).bind ?_ ?_
  · rintro e s' ⟨stops, known, recoverable⟩
    have left := (recoverable cleanly calm).leaves ⟨output, begun⟩ same readable known
    exact ⟨left.1, stops.formed calm.formed, calm.plain, left.2⟩
  rintro maintenance s₂ ⟨follows, yields, -, recoverable⟩
  have left := (recoverable calm).leaves ⟨output, begun⟩ same readable (.inl yields)
  have calm : j.Calm format s₂.tree := ⟨follows.formed calm.formed, calm.plain, left.2⟩
  have later : ∀ s' : Session σ, s'.tree.WellFormed →
      FileTree.SamePlts format j.keeper.cwd j.plts s₂.tree s'.tree →
      j.Leaves format s s'.tree ∧ j.Calm format s'.tree := by
    intro s' formed same
    refine ⟨?_, calm.later formed same.unharmed⟩
    unfold Leaves
    rw [same j.plt j.plt_mem]
    exact left.1
  refine (successTyping_ends keeps s₂).bind ?_ ?_
  · rintro e s' ⟨stops, same⟩
    exact later s' (stops.formed calm.formed) (same cleanly)
  rintro analysis s₃ ⟨follows, same⟩
  exact Act.ensures_pure.mpr (later s₃ (follows.formed calm.formed) same)

/-! ## When a run comes through -/

/-- A session from which nothing stands in the way of a run: the backend does what it can, what it finds can be
filed, every directory and file can be made, and all sets of files can be resolved. -/
structure Unhindered (j : Job σ) (format : PltFormat) (required : FileSet) (s : Session σ) : Prop where
  serves : j.keeper.backend.Serves format j.keeper.cwd j.plts
  legible : j.keeper.Legible
  room : s.tree.HasRoom j.keeper.cwd (j.keeper.output :: j.plts)
  required : ∀ s₁, j.Begins s s₁ → j.requiredFiles.Yields s₁ required
  own : j.settings.succTypings.isSet = true → ∀ s₁ n s₂, j.Begins s s₁ →
    j.updateProject s₁ = .ok n s₂ → ∃ own, j.ownFiles.Yields s₂ own

/-- A report begins in one way, so that it is enough to look at one. -/
theorem unhindered_of_begun {output : Path} {begun rest : Session σ}
    (serves : j.keeper.backend.Serves format j.keeper.cwd j.plts) (legible : j.keeper.Legible)
    (room : s.tree.HasRoom j.keeper.cwd (j.keeper.output :: j.plts))
    (begins : j.keeper.beginReport (j.opened s) = .ok output begun)
    (resolved : j.requiredFiles begun = .ok required rest)
    (own : ∀ n updated, j.updateProject begun = .ok n updated → ∃ own, j.ownFiles.Yields updated own) :
    j.Unhindered format required s := by
  have once : ∀ s₁, j.Begins s s₁ → s₁ = begun := by
    rintro s₁ ⟨_, again⟩
    cases begins.symm.trans again
    rfl
  refine ⟨serves, legible, room, fun s₁ begins => ?_, fun _ s₁ n s₂ begins updated => ?_⟩
  · rw [once s₁ begins]
    exact ⟨rest, resolved⟩
  · rw [once s₁ begins] at updated
    exact own n s₂ updated

/-- What the exact backend finds can be filed where its lines can be encoded. -/
theorem legible_of_exact {j : Job Nat} {cwd : String} {fails : Nat → Option Failure} {finds : List Diagnostic}
    (made : Job.of host (Exact.backend cwd fails finds) settings project runtime = .ok j)
    (unstopped : ∀ t bytes, host.stops? t bytes = none) (encodable : ∀ d ∈ finds, d.IsEncodable) :
    j.keeper.Legible := by
  obtain ⟨_, _, _, same, _⟩ := Job.of_eq_ok made
  refine ⟨Keeper.findsEncodable_of_backend fun o t st ds ran => ?_, fun t bytes => by rw [Job.stops_of made, unstopped]⟩
  rw [same] at ran
  exact Exact.found_of_analyze ran ▸ encodable

/-- A tree that is sturdy for the run. -/
abbrev Sturdy (j : Job σ) (room t : FileTree) : Prop := j.keeper.Sturdy room j.plts t

theorem updateBase_succeeds (keeps : j.keeper.Keeps format j.plts)
    (serves : j.keeper.backend.Serves format j.keeper.cwd j.plts) (legible : j.keeper.Legible)
    (keys : base.Canonical j.keeper.cwd) (readable : j.Readable format s.tree) (sturdy : j.Sturdy room s.tree) :
    (j.updateBase base).Succeeds s fun _ s' => j.Sturdy room s'.tree := by
  have read := Keeper.read_succeeds keeps serves j.basePlt_mem (readable _ j.basePlt_mem)
  unfold updateBase
  refine read.bind ?_
  rintro answer s₁ ⟨-, same, state⟩
  rw [← same] at sturdy state
  cases answer with
  | none => exact Keeper.build_succeeds serves legible keys j.basePlt_mem sturdy
  | some held =>
    have heldKeys := keeps.semantics.canonical_of_pltAt state
    exact Keeper.sync_succeeds keeps serves legible heldKeys keys j.basePlt_mem sturdy state

/-- A base PLT that is there is copied to any other place. -/
theorem copyBase_succeeds (sturdy : j.Sturdy room s.tree)
    (there : s.tree.pltAt format j.keeper.cwd j.basePlt ≠ .absent)
    (apart : ∀ t : FileTree, ¬ t.SameFile j.keeper.cwd j.plt j.basePlt) :
    j.copyBase.Succeeds s fun _ s' => j.Sturdy room s'.tree := by
  obtain ⟨t, made, sturdy, writable⟩ := sturdy.makeDirs j.plt_mem
  have kept := (FileTree.makeDirs_grows s.tree j.keeper.cwd j.plt.parent).pltAt there
  rw [made] at kept
  rw [← kept, ne_eq, FileTree.pltAt_eq_absent_iff] at there
  obtain ⟨bytes, found⟩ := Option.ne_none_iff_exists'.mp there
  obtain ⟨t', copied⟩ := writable.copy found fun ⟨l, source, target⟩ => apart t ⟨l, target, source⟩
  obtain ⟨_, _, written, _⟩ := FileTree.copy_eq_ok copied
  unfold copyBase
  refine Act.ensures_bind.mpr (Act.ensures_info.mpr (Act.succeeds_restate (Act.ensures_bind.mpr ?_)))
  refine Act.succeeds_changePartly made (Act.succeeds_change copied ?_)
  exact sturdy.modify (List.mem_cons_of_mem _ j.plt_mem) written

/-- A project PLT that is not there is made, from the base PLT or by a build. -/
theorem makeProjectPlt_succeeds (keeps : j.keeper.Keeps format j.plts)
    (serves : j.keeper.backend.Serves format j.keeper.cwd j.plts) (legible : j.keeper.Legible)
    (keys : w.required.Canonical j.keeper.cwd) (finds : j.Finds format w s) (calm : j.Calm format s.tree)
    (apart : ∀ t : FileTree, ¬ t.SameFile j.keeper.cwd j.plt j.basePlt) (sturdy : j.Sturdy room s.tree) :
    (j.makeProjectPlt w.required).Succeeds s fun _ s' => j.Sturdy room s'.tree := by
  have baseKeys : w.base.Canonical j.keeper.cwd := fun file member => keys file (finds.within file member)
  obtain ⟨s₁, resolved⟩ :=
    finds.base { s with log := s.log ++ [⟨.info, "Updating base plt..."⟩] } rfl rfl
  have logged := ((j.baseFiles_ends _).of_ok resolved).1
  have sameTree : s₁.tree = s.tree := logged.tree
  obtain ⟨_, logged⟩ := logged
  have finds := finds.later sameTree (by rw [logged])
  rw [← sameTree] at calm sturdy
  unfold makeProjectPlt
  refine Act.ensures_bind.mpr (Act.ensures_info.mpr (Act.ensures_bind.mpr ?_))
  rw [Act.ensures_of_ok resolved]
  have updates := (updateBase_succeeds keeps serves legible baseKeys calm.readable sturdy).and
    (updateBase_ends keeps baseKeys finds.basePlt)
  refine updates.bind ?_
  rintro warnings s₂ ⟨sturdy, -, updated⟩
  have state := updated.state finds.basePlt finds.exposed
  obtain ⟨known, answered⟩ := sturdy.roomy.isFile (List.mem_cons_of_mem _ j.basePlt_mem)
  refine Act.ensures_bind.mpr (Act.ensures_ofTree.mpr ⟨?_, fun e failed => nomatch answered.symm.trans failed⟩)
  intro there answered
  refine Act.ensures_ite.mpr ⟨fun isThere => ?_, fun _ => ?_⟩
  · have present := (FileTree.isFile_iff_pltAt format answered).mp isThere
    have copies := (copyBase_succeeds sturdy present apart).and (copyBase_ends present)
    refine copies.bind ?_
    rintro _ s₃ ⟨sturdy, -, here, -⟩
    rw [state, finds.updatedBase_of_calm calm (state ▸ present)] at here
    refine Act.Succeeds.bind (Keeper.sync_succeeds keeps serves legible baseKeys keys j.plt_mem sturdy here) ?_
    exact fun more s₄ sturdy => Act.ensures_pure.mpr sturdy
  · refine Act.Succeeds.bind (Keeper.build_succeeds serves legible keys j.plt_mem sturdy) ?_
    exact fun more s₃ sturdy => Act.ensures_pure.mpr sturdy

/-- A project PLT that can be read is brought up to date; one that is not there is made. -/
theorem updateProject_succeeds (keeps : j.keeper.Keeps format j.plts)
    (serves : j.keeper.backend.Serves format j.keeper.cwd j.plts) (legible : j.keeper.Legible)
    (yields : j.requiredFiles.Yields s required)
    (readable : s.tree.pltAt format j.keeper.cwd j.plt ≠ .unreadable)
    (fresh : s.tree.pltAt format j.keeper.cwd j.plt = .absent →
      j.Calm format s.tree ∧ ∀ t : FileTree, ¬ t.SameFile j.keeper.cwd j.plt j.basePlt)
    (sturdy : j.Sturdy room s.tree) : j.updateProject.Succeeds s fun _ s' => j.Sturdy room s'.tree := by
  unfold updateProject
  refine Act.ensures_ite.mpr ⟨fun _ => Act.ensures_pure.mpr sturdy, fun _ => ?_⟩
  refine Act.ensures_bind.mpr (Act.ensures_info.mpr (Act.ensures_bind.mpr ?_))
  have known : (j.situation format s).required = required := yields.resolved
  obtain ⟨s₁, resolved⟩ : j.requiredFiles.Yields
      { s with log := s.log ++ [⟨.info, "Updating plt..."⟩] } required :=
    requiredFiles_yields_of_same j yields rfl rfl
  have logged := ((j.requiredFiles_ends _).of_ok resolved).1
  have sameTree : s₁.tree = s.tree := logged.tree
  have samePath : s₁.searchPath = s.searchPath := by
    obtain ⟨_, logged⟩ := logged
    rw [logged]
  rw [Act.ensures_of_ok resolved]
  have keys := canonical_required keeps.rooted yields
  rw [← sameTree] at readable
  refine Act.Succeeds.bind (Keeper.read_succeeds keeps serves j.plt_mem readable) ?_
  rintro answer s₂ ⟨asked, unchanged, state⟩
  have unchanged := unchanged.trans sameTree
  rw [← unchanged] at sturdy fresh
  rw [sameTree, ← unchanged] at state
  cases answer with
  | some held =>
    have heldKeys := keeps.semantics.canonical_of_pltAt state
    exact Keeper.sync_succeeds keeps serves legible heldKeys keys j.plt_mem sturdy state
  | none =>
    obtain ⟨calm, apart⟩ := fresh state
    rw [← known] at yields keys ⊢
    have finds := (finds_situation format yields rfl).later unchanged (asked.searchPath.trans samePath)
    exact makeProjectPlt_succeeds keeps serves legible keys finds calm apart sturdy

theorem successTyping_succeeds (keeps : j.keeper.Keeps format j.plts)
    (serves : j.keeper.backend.Serves format j.keeper.cwd j.plts) (legible : j.keeper.Legible)
    (own : j.settings.succTypings.isSet = true → ∃ own, j.ownFiles.Yields s own)
    (sturdy : j.Sturdy room s.tree) :
    j.successTyping.Succeeds s fun _ s' => j.Sturdy room s'.tree := by
  unfold successTyping
  refine Act.ensures_ite.mpr ⟨fun _ => Act.ensures_pure.mpr sturdy, fun on => ?_⟩
  obtain ⟨files, yields⟩ := own (by simpa using on)
  have keys := canonical_own keeps.rooted yields
  refine Act.ensures_bind.mpr (Act.ensures_info.mpr (Act.ensures_bind.mpr ?_))
  obtain ⟨s₁, resolved⟩ : j.ownFiles.Yields
      { s with log := s.log ++ [⟨.info, "Doing success typing analysis..."⟩] } files :=
    ownFiles_yields_of_same j yields rfl
  have sameTree : s₁.tree = s.tree := ((j.ownFiles_ends _).of_ok resolved).1.tree
  rw [Act.ensures_of_ok resolved]
  rw [← sameTree] at sturdy
  refine Act.ensures_bind.mpr (Act.ensures_info.mpr ?_)
  exact Keeper.runPhase_succeeds serves legible keys j.plt_mem sturdy (fun writing => absurd writing (by decide))
    fun _ notTyping => absurd rfl notTyping

/-- Where nothing is required of a PLT that was not there, it is empty or still not there. -/
theorem Recoverable.of_none (recoverable : j.Recoverable format w t') (absent : w.plt = .absent)
    (within : ∀ file ∈ w.base, file ∈ w.required) (none : w.required = ∅) :
    t'.pltAt format j.keeper.cwd j.plt = .holds ∅ ∨ t'.pltAt format j.keeper.cwd j.plt = .absent := by
  have noBase : w.base = ∅ := FileSet.ext fun file =>
    ⟨fun member => none ▸ within file member, fun member => absurd member FileSet.not_mem_empty⟩
  rcases recoverable.plt with asBefore | base | ⟨old, there, _⟩ | complete
  · exact .inr (asBefore.trans absent)
  · exact .inl (noBase ▸ base)
  · exact nomatch absent.symm.trans there
  · exact .inl (none ▸ complete)

/-- A run that has brought the project PLT up to date comes through, and changes no PLT any more. -/
theorem run_of_updated (keeps : j.keeper.Keeps format j.plts) (unhindered : j.Unhindered format required s)
    {output : Path} {n : Nat} {s₂ : Session σ} (begun : j.keeper.beginReport (j.opened s) = .ok output s₁)
    (updated : j.updateProject s₁ = .ok n s₂) (sturdy : j.Sturdy room s₂.tree) :
    ∃ o s', j.run s = .ok o s' ∧ o.status ≠ .failed ∧ j.Sturdy room s'.tree ∧
      FileTree.SamePlts format j.keeper.cwd j.plts s₂.tree s'.tree := by
  have types := (successTyping_succeeds keeps unhindered.serves unhindered.legible
    (fun on => unhindered.own on s₁ n s₂ ⟨output, begun⟩ updated) sturdy).and (successTyping_ends keeps s₂)
  obtain ⟨analysis, s₃, typed, sturdy, -, same⟩ := types.eq_ok
  have steps : j.steps (j.opened s) = .ok (n + analysis) s₃ := by
    unfold Job.steps
    simp only [bind, EStateM.bind, begun, updated, typed]
    rfl
  obtain ⟨s', ⟨path, log, rfl⟩, ran⟩ := run_of_completed steps
  exact ⟨_, _, ran, j.completed_ne_failed _ _, sturdy, same⟩

/-- A run in whose way nothing stands is not failed, and the project PLT is complete. Of no files none
need be made. -/
theorem run_succeeds (keeps : j.keeper.Keeps format j.plts) (updating : j.settings.updatePlt.isSet = true)
    (calm : j.Calm format s.tree) (apart : ∀ t : FileTree, ¬ t.SameFile j.keeper.cwd j.plt j.basePlt)
    (unhindered : j.Unhindered format required s) :
    ∃ o s', j.run s = .ok o s' ∧ o.status ≠ .failed ∧
      (s'.tree.pltAt format j.keeper.cwd j.plt = .holds required ∨
        required = ∅ ∧ s'.tree.pltAt format j.keeper.cwd j.plt = .absent) := by
  obtain ⟨room, roomy⟩ := unhindered.room.roomy calm.formed
  have begins : j.keeper.beginReport.Succeeds (j.opened s) fun _ s' => j.Sturdy room s'.tree :=
    Keeper.beginReport_succeeds roomy
  obtain ⟨output, s₁, begun, sturdy, begins, same⟩ := (begins.and (Keeper.beginReport_ends keeps _)).eq_ok
  have same := (calm.samePlts_makeDirs j.keeper.output.parent).trans same
  have calm := calm.later (begins.formed calm.formed) same.unharmed
  have yields := unhindered.required s₁ ⟨output, begun⟩
  have updates := (updateProject_succeeds keeps unhindered.serves unhindered.legible yields (calm.readable _ j.plt_mem)
    (fun _ => ⟨calm, apart⟩) sturdy).and (updateProject_ends keeps updating rfl)
  obtain ⟨maintenance, s₂, updated, sturdy, -, -, complete, recoverable⟩ := updates.eq_ok
  obtain ⟨o, s', ran, notFailed, -, sameAfter⟩ := run_of_updated keeps unhindered begun updated sturdy
  refine ⟨o, s', ran, notFailed, ?_⟩
  rw [sameAfter j.plt j.plt_mem]
  have known : (j.situation format s₁).required = required := yields.resolved
  have nothing : (j.situation format s₁).stale = ∅ :=
    stale_of_plain calm.formed (calm.plain _ j.basePlt_mem)
  rw [known, nothing, FileSet.union_empty] at complete
  -- No PLT is built of no files, so one that was not there may still not be.
  by_cases unmade : (j.situation format s₁).plt = .absent ∧ required = ∅
  · obtain ⟨absent, none⟩ := unmade
    have within := (finds_situation format (known.symm ▸ yields) rfl).within
    rw [none]
    exact ((recoverable calm).of_none absent within (known.trans none)).imp id fun absent => ⟨rfl, absent⟩
  · exact .inl (complete fun absent none => unmade ⟨absent, none⟩)

/-- Wherever a run stops, what it leaves is a state from which a later one can start. The PLTs are
readable; the project PLT is as before, or holds the base set, what it held of the required files, or
all of these. A later run of the same settings, in whose way nothing stands, is not failed and leaves
the project PLT complete, provided that the two PLTs are different files. -/
theorem restart_after_run (made : Job.of host backend settings project runtime = .ok j)
    (rooted : Path.Rooted host.cwd) (semantics : backend.SetSemantics format host.cwd j.plts)
    (cleanly : backend.FailsCleanly format host.cwd j.plts) (updating : settings.updatePlt.isSet = true)
    (formed : s.tree.WellFormed) (plain : ∀ plt ∈ j.plts, ".." ∉ plt.parts)
    (readable : ∀ plt ∈ j.plts, s.tree.pltAt format host.cwd plt ≠ .unreadable) :
    j.Leaves format s (j.run.after s).tree ∧ j.Readable format (j.run.after s).tree ∧
      ∀ {τ : Type} {backend' : Backend τ} {j' : Job τ} {s' : Session τ} {required : FileSet},
        Job.of host backend' settings project runtime = .ok j' →
        backend'.SetSemantics format host.cwd j'.plts →
        (∀ t : FileTree, ¬ t.SameFile host.cwd j.plt j.basePlt) →
        s'.tree = (j.run.after s).tree → j'.Unhindered format required s' →
        ∃ o s'', j'.run s' = .ok o s'' ∧ o.status ≠ .failed ∧
          (s''.tree.pltAt format host.cwd j.plt = .holds required ∨
            required = ∅ ∧ s''.tree.pltAt format host.cwd j.plt = .absent) := by
  obtain ⟨_, _, _, rfl, directory, rfl, _⟩ := Job.of_eq_ok made
  have keeps := Job.keeps_of made rooted semantics
  rw [← directory] at cleanly readable ⊢
  obtain ⟨path, log, handedOn⟩ := j.after_run s
  obtain ⟨leaves, calm⟩ := (steps_leave keeps cleanly updating ⟨formed, plain, readable⟩).after
  have sameTree : (j.run.after s).tree = (j.steps.after (j.opened s)).tree := by rw [handedOn]
  rw [sameTree]
  refine ⟨leaves, calm.readable, ?_⟩
  intro τ backend' j' s' required made' semantics' apart same unhindered
  obtain ⟨_, _, _, rfl, directory', sameSettings, _⟩ := Job.of_eq_ok made'
  have keeps' := Job.keeps_of made' rooted (directory ▸ semantics')
  obtain ⟨samePlt, sameBase⟩ := Job.plt_unique made made'
  have samePlts : j'.plts = j.plts := by rw [Job.plts, samePlt, sameBase, Job.plts]
  have sameCwd : j'.keeper.cwd = j.keeper.cwd := directory'.trans directory.symm
  have calm' : j'.Calm format s'.tree := by
    rw [same]
    refine ⟨calm.formed, samePlts ▸ calm.plain, ?_⟩
    rw [samePlts, sameCwd]
    exact calm.readable
  have apart' : ∀ t : FileTree, ¬ t.SameFile j'.keeper.cwd j'.plt j'.basePlt := by
    rw [sameCwd, samePlt, sameBase]
    exact apart
  have completes := run_succeeds keeps' (sameSettings ▸ updating) calm' apart' unhindered
  rw [sameCwd, samePlt] at completes
  exact completes

/-- The second analysis fails, when the base PLT has been copied already. The next run does what is
left. -/
theorem restart_of_interrupted_run : ∃ j o s₁ j' o' s₂ required,
    Exact.job "/w/s" (fun call => if call = 1 then some (.tool (.backend "")) else none) [] = .ok j ∧
    j.run Exact.session = .ok o s₁ ∧ o.status = .failed ∧
    s₁.tree.pltAt (Exact.contents "/w") "/w" j.plt = .holds ∅ ∧
    Exact.job "/w/s" (fun _ => none) [] = .ok j' ∧ j'.run s₁ = .ok o' s₂ ∧ o'.status ≠ .failed ∧
    required ≠ ∅ ∧ s₂.tree.pltAt (Exact.contents "/w") "/w" j.plt = .holds required := by
  have checked : checkRun
      (Exact.job "/w/s" (fun call => if call = 1 then some (.tool (.backend "")) else none) [])
      Exact.session (fun j o s₁ =>
        o.status = .failed && s₁.tree.pltAt (Exact.contents "/w") "/w" j.plt = .holds ∅ &&
        (j.plts.all fun plt => !plt.parts.contains ".." &&
          Exact.tree.pltAt (Exact.contents "/w") "/w" plt ≠ .unreadable) &&
        FileTree.placeOf "/w" j.plt ≠ FileTree.placeOf "/w" j.basePlt &&
        (s₁.tree.entries.all fun entry => s₁.tree.at? entry.1.dropLast = some .dir) &&
        match Exact.job "/w/s" (fun _ => none) [] with
        | .error _ => false
        | .ok j' =>
          ((j'.keeper.output :: j'.plts).all fun p =>
            s₁.tree.at? (FileTree.startOf "/w" p) = some .dir && (s₁.tree.bytesAt? "/w" p).isSome) &&
          j'.keeper.beginReport.check (j'.opened s₁) fun _ begun =>
            j'.requiredFiles.check begun fun required _ =>
              required ≠ ∅ && j'.updateProject.check begun fun _ updated =>
                j'.ownFiles.check updated fun _ _ => true) = true := by decide +kernel
  obtain ⟨j, o, s₁, made, ran, checked⟩ := of_checkRun checked
  simp only [Bool.and_eq_true, decide_eq_true_eq, List.all_eq_true] at checked
  obtain ⟨⟨⟨⟨⟨failed, copied⟩, plts⟩, different⟩, formed⟩, later⟩ := checked
  split at later
  · cases later
  rename_i j' made'
  simp only [Bool.and_eq_true, decide_eq_true_eq, List.all_eq_true] at later
  obtain ⟨there, later⟩ := later
  obtain ⟨output, begun, begins, later⟩ := Act.of_check later
  obtain ⟨required, rest, resolved, later⟩ := Act.of_check later
  rw [Bool.and_eq_true, decide_eq_true_iff] at later
  obtain ⟨some, later⟩ := later
  obtain ⟨n, updated, updates, later⟩ := Act.of_check later
  obtain ⟨own, after, resolvedOwn, -⟩ := Act.of_check later
  obtain ⟨_, _, _, sameBackend, directory, _⟩ := Job.of_eq_ok made'
  have unhindered : j'.Unhindered (Exact.contents "/w") required s₁ := by
    refine unhindered_of_begun ?_ (legible_of_exact made' (fun _ _ => rfl) (List.forall_mem_nil _)) ?_ begins resolved
      fun n s₃ ran => ?_
    · rw [sameBackend, directory]
      exact Exact.serves
    · rw [directory]
      exact (FileTree.wellFormed_of_entries formed).hasRoom there
    · cases updates.symm.trans ran
      exact ⟨own, after, resolvedOwn⟩
  have plain : ∀ plt ∈ j.plts, ".." ∉ plt.parts := fun plt member => by simpa using (plts plt member).1
  have apart : ∀ t : FileTree, ¬ t.SameFile "/w" j.plt j.basePlt := fun t =>
    FileTree.not_sameFile_of_plain (plain _ j.plt_mem) (plain _ j.basePlt_mem) different
  have left : (j.run.after Exact.session).tree = s₁.tree := by simp only [Act.after, ran]
  obtain ⟨o', s₂, ran', notFailed, state⟩ := (restart_after_run made Exact.rooted_host
    (Exact.setSemantics Exact.rooted_host) Exact.failsCleanly rfl Exact.wellFormed_tree plain
    fun plt member => (plts plt member).2).2.2 made' (Exact.setSemantics Exact.rooted_host) apart left.symm
    unhindered
  refine ⟨j, o, s₁, j', o', s₂, required, made, ran, failed, copied, made', ran', notFailed, some, ?_⟩
  exact state.resolve_right fun none => some none.1

end PltKeeper.Job
