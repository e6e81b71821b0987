import PltKeeper.Proofs.Run.Plan

/-! How the maintenance of a run ends. Each step is told for both its ends: what it has asked, as far
as the plan goes, and what it has done to the two PLTs. The base PLT is built or synced; the project
PLT is then copied from it and synced, or built, and one that was there is synced alone. -/
namespace PltKeeper

variable {σ : Type}

/-- Making directories changes no PLT in a well-formed tree, provided that no path goes up. -/
theorem FileTree.WellFormed.samePlts_makeDirs {t : FileTree} {format : PltFormat} {cwd : String}
    {plts : List Path} (formed : t.WellFormed) (plain : ∀ plt ∈ plts, ".." ∉ plt.parts) (p : Path) :
    FileTree.SamePlts format cwd plts t (t.makeDirs cwd p).2 := by
  intro plt member
  unfold FileTree.pltAt
  rw [(FileTree.makeDirs_grows t cwd p).bytesAt?_plain formed (plain plt member)]

namespace Job

/-! ## The base PLT -/

/-- The base PLT has been brought up to date. -/
inductive BaseUpdated (j : Job σ) (format : PltFormat) (base : FileSet) (t t' : FileTree) : Prop
  | synced {held : FileSet} (there : t.pltAt format j.keeper.cwd j.basePlt = .holds held)
      (synced : FileTree.Synced format j.keeper.cwd j.plts j.basePlt held base t t')
  | built (absent : t.pltAt format j.keeper.cwd j.basePlt = .absent)
      (phased : FileTree.Phased format j.keeper.cwd j.plts .build j.basePlt base
        (t.makeDirs j.keeper.cwd j.basePlt.parent).2 t')

/-- Bringing the base PLT up to date has failed. -/
inductive BaseHalted (j : Job σ) (format : PltFormat) (base : FileSet) (t t' : FileTree) : Prop
  | unread (same : t' = t)
  | synced {held : FileSet} (there : t.pltAt format j.keeper.cwd j.basePlt = .holds held)
      (halted : FileTree.SyncHalted format j.keeper.cwd j.plts j.basePlt held base t t')
  | built (absent : t.pltAt format j.keeper.cwd j.basePlt = .absent)
      (halted : FileTree.Halted format j.keeper.cwd j.plts .build j.basePlt base
        (t.makeDirs j.keeper.cwd j.basePlt.parent).2 t')

variable {j : Job σ} {format : PltFormat} {w : Situation} {base : FileSet} {s : Session σ}
  {t t' : FileTree}

theorem updateBase_ends (keeps : j.keeper.Keeps format j.plts) (keys : w.base.Canonical j.keeper.cwd)
    (found : w.basePlt = s.tree.pltAt format j.keeper.cwd j.basePlt) :
    (j.updateBase w.base).Ensures s
      (fun _ s' => s.Follows s' (j.plannedBase w) ∧ j.BaseUpdated format w.base s.tree s'.tree)
      fun _ s' => s.Stops s' (j.plannedBase w) ∧
        (j.keeper.backend.FailsCleanly format j.keeper.cwd j.plts →
          j.BaseHalted format w.base s.tree s'.tree) := by
  unfold updateBase
  refine (Keeper.read_ends keeps j.basePlt_mem s).bind ?_ ?_
  · rintro e s' ⟨follows, same⟩
    exact ⟨follows.stops.append _, fun _ => .unread same⟩
  rintro answer s₁ ⟨asked, same, state⟩
  have planned : j.plannedBase w = [.query j.basePlt] ++
      answer.elim (j.keeper.ask .build j.basePlt w.base) (j.keeper.syncRequests j.basePlt · w.base) := by
    unfold plannedBase
    rw [found, state]
    cases answer <;> rfl
  rw [planned]
  cases answer with
  | none =>
    refine (Keeper.build_ends keeps keys j.basePlt_mem s₁).mono ?_ ?_
    · rintro n s' ⟨follows, phased⟩
      exact ⟨asked.trans follows, .built state (same ▸ phased)⟩
    · rintro e s' ⟨stops, cleanly⟩
      exact ⟨asked.then_stops stops, fun clean => .built state (same ▸ cleanly clean)⟩
  | some held =>
    have heldKeys := keeps.semantics.canonical_of_pltAt state
    refine (Keeper.sync_ends keeps heldKeys keys j.basePlt_mem s₁).mono ?_ ?_
    · rintro n s' ⟨follows, synced⟩
      exact ⟨asked.trans follows, .synced state (same ▸ synced)⟩
    · rintro e s' ⟨stops, cleanly⟩
      exact ⟨asked.then_stops stops, fun clean => .synced state (same ▸ cleanly clean)⟩

/-- A base PLT that has been brought up to date is what the situation says. -/
theorem BaseUpdated.state (updated : j.BaseUpdated format w.base t t')
    (found : w.basePlt = t.pltAt format j.keeper.cwd j.basePlt)
    (exposed : w.exposed =
      (t.makeDirs j.keeper.cwd j.basePlt.parent).2.pltAt format j.keeper.cwd j.basePlt) :
    t'.pltAt format j.keeper.cwd j.basePlt = w.updatedBase := by
  unfold Situation.updatedBase
  cases updated with
  | synced there synced =>
    rw [found, there]
    exact (synced.of_holds j.basePlt_mem there).1
  | built absent phased =>
    rw [found, absent]
    by_cases none : w.base = ∅
    · simp only [none, if_true]
      rw [phased.1 none, exposed]
    · simp only [none, if_false]
      exact (phased.2 none).built.here

theorem BaseUpdated.met (updated : j.BaseUpdated format base t t') :
    t.pltAt format j.keeper.cwd j.basePlt ≠ .unreadable := by
  cases updated with
  | synced there _ => simp [there]
  | built absent _ => simp [absent]

/-! ## Where nothing comes within reach -/

/-- A tree in which making directories brings no PLT within reach, and in which both are readable. -/
structure Calm (j : Job σ) (format : PltFormat) (t : FileTree) : Prop where
  formed : t.WellFormed
  plain : ∀ plt ∈ j.plts, ".." ∉ plt.parts
  readable : ∀ plt ∈ j.plts, t.pltAt format j.keeper.cwd plt ≠ .unreadable

theorem Calm.samePlts_makeDirs (calm : j.Calm format t) (p : Path) :
    FileTree.SamePlts format j.keeper.cwd j.plts t (t.makeDirs j.keeper.cwd p).2 :=
  calm.formed.samePlts_makeDirs calm.plain p

/-- What was calm stays so while no PLT becomes unreadable. -/
theorem Calm.later (calm : j.Calm format t) (formed : t'.WellFormed)
    (unharmed : FileTree.Unharmed format j.keeper.cwd j.plts t t') : j.Calm format t' :=
  ⟨formed, calm.plain, fun plt member => unharmed.readable plt member (calm.readable plt member)⟩

/-- What is at the place of a project PLT that was not there, while the base PLT is worked on: nothing,
or the base PLT itself. -/
structure Untouched (j : Job σ) (format : PltFormat) (base : FileSet) (t' : FileTree) : Prop where
  plt : t'.pltAt format j.keeper.cwd j.plt = .absent ∨ t'.pltAt format j.keeper.cwd j.plt = .holds base
  readable : t'.pltAt format j.keeper.cwd j.basePlt ≠ .unreadable

theorem Calm.untouched_of_same (calm : j.Calm format t) (absent : t.pltAt format j.keeper.cwd j.plt = .absent)
    (same : FileTree.SamePlts format j.keeper.cwd j.plts t t') : j.Untouched format base t' where
  plt := .inl ((same j.plt j.plt_mem).trans absent)
  readable := (same j.basePlt j.basePlt_mem).symm ▸ calm.readable j.basePlt j.basePlt_mem

theorem Calm.untouched_of_unharmed (calm : j.Calm format t)
    (absent : t.pltAt format j.keeper.cwd j.plt = .absent)
    (unharmed : FileTree.Unharmed format j.keeper.cwd j.plts t t') : j.Untouched format base t' where
  plt := .inl (unharmed.absent j.plt j.plt_mem absent)
  readable := unharmed.readable j.basePlt j.basePlt_mem (calm.readable j.basePlt j.basePlt_mem)

theorem Calm.untouched_of_built (calm : j.Calm format t)
    (absent : t.pltAt format j.keeper.cwd j.plt = .absent)
    (written : FileTree.Written format j.keeper.cwd j.plts j.basePlt base
      (t.makeDirs j.keeper.cwd j.basePlt.parent).2 t') : j.Untouched format base t' := by
  refine ⟨?_, by simp [written.here]⟩
  by_cases together : (t.makeDirs j.keeper.cwd j.basePlt.parent).2.SameFile j.keeper.cwd j.plt j.basePlt
  · exact .inr (written.together j.plt j.plt_mem together)
  · have same := calm.samePlts_makeDirs j.basePlt.parent j.plt j.plt_mem
    exact .inl ((written.elsewhere j.plt j.plt_mem together).trans (same.trans absent))

theorem BaseUpdated.untouched (updated : j.BaseUpdated format base t t') (calm : j.Calm format t)
    (absent : t.pltAt format j.keeper.cwd j.plt = .absent) : j.Untouched format base t' := by
  cases updated with
  | synced there synced =>
    exact calm.untouched_of_unharmed absent (synced.of_holds j.basePlt_mem there).2
  | built _ phased =>
    by_cases none : base = ∅
    · rw [phased.1 none]
      exact calm.untouched_of_same absent (calm.samePlts_makeDirs j.basePlt.parent)
    · exact calm.untouched_of_built absent (phased.2 none).built

theorem BaseHalted.untouched (halted : j.BaseHalted format base t t') (calm : j.Calm format t)
    (absent : t.pltAt format j.keeper.cwd j.plt = .absent) : j.Untouched format base t' := by
  cases halted with
  | unread same =>
    rw [same]
    exact calm.untouched_of_same absent (.refl t)
  | synced there halted =>
    exact calm.untouched_of_unharmed absent (halted.of_holds j.basePlt_mem there).2
  | built _ halted =>
    rcases halted with same | analysed
    · exact calm.untouched_of_same absent ((calm.samePlts_makeDirs j.basePlt.parent).trans same)
    · exact calm.untouched_of_built absent analysed.built

/-! ## A fresh project PLT -/

/-- A copy gives the project PLT what the base PLT is; one that fails has made directories at most. -/
theorem copyBase_ends (there : s.tree.pltAt format j.keeper.cwd j.basePlt ≠ .absent) :
    j.copyBase.Ensures s
      (fun _ s' => s.Follows s' [] ∧
        s'.tree.pltAt format j.keeper.cwd j.plt = s.tree.pltAt format j.keeper.cwd j.basePlt ∧
        s'.tree.pltAt format j.keeper.cwd j.basePlt = s.tree.pltAt format j.keeper.cwd j.basePlt)
      fun _ s' => s.Follows s' [] ∧ s'.tree = (s.tree.makeDirs j.keeper.cwd j.plt.parent).2 := by
  have madeDirs : s.Follows { s with tree := (s.tree.makeDirs j.keeper.cwd j.plt.parent).2 } [] :=
    ⟨rfl, by simp, fun formed => formed.makeDirs j.keeper.cwd j.plt.parent⟩
  unfold copyBase
  rw [Act.ensures_bind, Act.ensures_info]
  apply Act.ensures_restate
  rw [Act.ensures_bind, Act.ensures_changePartly]
  constructor
  · intro _
    rw [Act.ensures_change]
    refine ⟨?_, fun _ _ _ => ⟨madeDirs.logged, rfl⟩⟩
    intro t copied
    obtain ⟨bytes, found, written, apart⟩ := FileTree.copy_eq_ok copied
    obtain ⟨here, -, elsewhere⟩ := FileTree.bytesAt?_modify written
    have source := (FileTree.makeDirs_grows s.tree j.keeper.cwd j.plt.parent).pltAt there
    refine ⟨⟨rfl, by simp, fun formed => (formed.makeDirs _ _).modify written⟩, ?_, ?_⟩
    · rw [← source]
      unfold FileTree.pltAt
      rw [found]
      exact congrArg _ here
    · rw [← source]
      unfold FileTree.pltAt
      exact congrArg _ (elsewhere j.basePlt apart)
  · exact fun _ _ _ => ⟨madeDirs.logged, rfl⟩

/-- What a situation is made of, found in a session. -/
structure Finds (j : Job σ) (format : PltFormat) (w : Situation) (s : Session σ) : Prop where
  base : ∀ s' : Session σ, s'.tree = s.tree → s'.searchPath = s.searchPath →
    j.baseFiles.Yields s' w.base
  within : ∀ file ∈ w.base, file ∈ w.required
  plt : w.plt = s.tree.pltAt format j.keeper.cwd j.plt
  basePlt : w.basePlt = s.tree.pltAt format j.keeper.cwd j.basePlt
  exposed : w.exposed =
    (s.tree.makeDirs j.keeper.cwd j.basePlt.parent).2.pltAt format j.keeper.cwd j.basePlt

theorem Finds.later {s' : Session σ} (finds : j.Finds format w s) (sameTree : s'.tree = s.tree)
    (samePath : s'.searchPath = s.searchPath) : j.Finds format w s' where
  base later tree path := finds.base later (tree.trans sameTree) (path.trans samePath)
  within := finds.within
  plt := sameTree ▸ finds.plt
  basePlt := sameTree ▸ finds.basePlt
  exposed := sameTree ▸ finds.exposed

/-- What a run may leave behind: the project PLT as it was, holding the base set, without what is not
required, or complete, and a base PLT that can be read. -/
structure Recoverable (j : Job σ) (format : PltFormat) (w : Situation) (t' : FileTree) : Prop where
  plt : t'.pltAt format j.keeper.cwd j.plt = w.plt ∨
    t'.pltAt format j.keeper.cwd j.plt = .holds w.base ∨
    (∃ old, w.plt = .holds old ∧ t'.pltAt format j.keeper.cwd j.plt = .holds (old ∩ w.required)) ∨
    t'.pltAt format j.keeper.cwd j.plt = .holds w.required
  readable : t'.pltAt format j.keeper.cwd j.basePlt ≠ .unreadable

theorem Untouched.recoverable (untouched : j.Untouched format w.base t') (absent : w.plt = .absent) :
    j.Recoverable format w t' where
  plt := untouched.plt.elim (fun none => .inl (none.trans absent.symm)) fun base => .inr (.inl base)
  readable := untouched.readable

theorem Untouched.later (untouched : j.Untouched format base t)
    (same : FileTree.SamePlts format j.keeper.cwd j.plts t t') : j.Untouched format base t' where
  plt := (same j.plt j.plt_mem).symm ▸ untouched.plt
  readable := (same j.basePlt j.basePlt_mem).symm ▸ untouched.readable

/-- A build that came through leaves the project PLT complete. -/
theorem Untouched.recoverable_of_built (untouched : j.Untouched format w.base t)
    (written : FileTree.Written format j.keeper.cwd j.plts j.plt w.required t t') :
    j.Recoverable format w t' := by
  refine ⟨.inr (.inr (.inr written.here)), ?_⟩
  by_cases together : t.SameFile j.keeper.cwd j.basePlt j.plt
  · simp [written.together j.basePlt j.basePlt_mem together]
  · exact (written.elsewhere j.basePlt j.basePlt_mem together).symm ▸ untouched.readable

/-- In a calm tree the base PLT that is copied holds just the base set. -/
theorem Finds.updatedBase_of_calm (finds : j.Finds format w s) (calm : j.Calm format s.tree)
    (there : w.updatedBase ≠ .absent) : w.updatedBase = .holds w.base := by
  have same := calm.samePlts_makeDirs j.basePlt.parent j.basePlt j.basePlt_mem
  rw [← finds.exposed, ← finds.basePlt] at same
  have readable : w.basePlt ≠ .unreadable := finds.basePlt ▸ calm.readable j.basePlt j.basePlt_mem
  unfold Situation.updatedBase at there ⊢
  cases state : w.basePlt with
  | holds held => rfl
  | unreadable => exact absurd state readable
  | absent =>
    rw [state] at there same
    by_cases none : w.base = ∅
    · simp only [none, if_true] at there
      exact absurd same there
    · simp [none]

/-- The base PLT that is copied holds the base set, unless it only came within reach. -/
theorem updatedBase_cases (fresh : w.plt = .absent) (met : w.basePlt ≠ .unreadable) :
    (w.updatedBase = .holds w.base ∧ w.stale = ∅) ∨
      (w.base = ∅ ∧ w.basePlt = .absent ∧ w.updatedBase = w.exposed) := by
  unfold Situation.updatedBase Situation.stale
  cases state : w.basePlt with
  | holds held => exact .inl ⟨rfl, by simp⟩
  | unreadable => exact absurd state met
  | absent =>
    by_cases none : w.base = ∅
    · exact .inr ⟨none, rfl, by simp [none]⟩
    · refine .inl ⟨by simp [none], ?_⟩
      cases w.exposed <;> simp [fresh, none]

theorem stale_of_exposed {files : FileSet} (fresh : w.plt = .absent) (none : w.base = ∅)
    (absent : w.basePlt = .absent) (exposed : w.exposed = .holds files) : w.stale = files := by
  simp [Situation.stale, fresh, none, absent, exposed]

theorem stale_of_holds {files : FileSet} (there : w.plt = .holds files) : w.stale = ∅ := by
  simp [Situation.stale, there]

theorem stale_of_unexposed (exposed : w.exposed = .absent) : w.stale = ∅ := by
  unfold Situation.stale
  rw [exposed]
  split <;> simp_all

/-- The plan for a copy, which holds no more than is required. -/
theorem syncRequests_of_within (within : ∀ file ∈ w.base, file ∈ w.required) :
    j.keeper.syncRequests j.plt w.base w.required =
      j.keeper.ask .check j.plt w.base ++ j.keeper.ask .add j.plt (w.required \ w.base) :=
  Keeper.syncRequests_of_subset within

/-- A copy of the base PLT, synced from the base set that it is taken to hold. -/
theorem copied_ends (keeps : j.keeper.Keeps format j.plts) (baseKeys : w.base.Canonical j.keeper.cwd)
    (keys : w.required.Canonical j.keeper.cwd) (within : ∀ file ∈ w.base, file ∈ w.required)
    (fresh : w.plt = .absent) (met : w.basePlt ≠ .unreadable) (warnings : Nat)
    (state : s.tree.pltAt format j.keeper.cwd j.basePlt = w.updatedBase)
    (there : w.updatedBase ≠ .absent) :
    (j.copyBase >>= fun _ => j.keeper.sync j.plt w.base w.required >>= fun more =>
        pure (warnings + more)).Ensures s
      (fun _ s' => s.Follows s' (j.keeper.syncRequests j.plt w.base w.required) ∧
        (w.required ≠ ∅ → s'.tree.pltAt format j.keeper.cwd j.plt = .holds (w.required ∪ w.stale)) ∧
        (w.updatedBase = .holds w.base → j.Recoverable format w s'.tree))
      fun _ s' => s.Stops s' (j.keeper.syncRequests j.plt w.base w.required) ∧
        (j.keeper.backend.FailsCleanly format j.keeper.cwd j.plts → w.updatedBase = .holds w.base →
          s.tree.WellFormed → (∀ plt ∈ j.plts, ".." ∉ plt.parts) → j.Untouched format w.base s.tree →
          j.Recoverable format w s'.tree) := by
  refine (copyBase_ends (state ▸ there)).bind ?_ ?_
  · rintro e s' ⟨follows, same⟩
    refine ⟨follows.stops.append _, fun _ _ formed plain untouched => ?_⟩
    rw [same]
    exact (untouched.later (formed.samePlts_makeDirs plain j.plt.parent)).recoverable fresh
  rintro _ s₁ ⟨copied, here, source⟩
  rw [state] at here source
  have readable : w.updatedBase = .holds w.base →
      s₁.tree.pltAt format j.keeper.cwd j.basePlt ≠ .unreadable := by
    intro known_
    simp [source, known_]
  refine (Keeper.sync_ends keeps baseKeys keys j.plt_mem s₁).bind ?_ ?_
  · rintro e s' ⟨stops, cleanly⟩
    refine ⟨copied.then_stops stops, fun clean known_ _ _ _ => ?_⟩
    obtain ⟨reached, unharmed⟩ := (cleanly clean).of_holds j.plt_mem (here.trans known_)
    rw [(FileSet.delta_of_subset within).2] at reached
    refine ⟨.inr ?_, unharmed.readable j.basePlt j.basePlt_mem (readable known_)⟩
    rcases reached with base | base | complete
    · exact .inl base
    · exact .inl base
    · exact .inr (.inr complete)
  rintro more s₂ ⟨follows, synced⟩
  rw [Act.ensures_pure]
  refine ⟨copied.trans follows, ?_, ?_⟩
  · intro some
    rcases updatedBase_cases fresh met with ⟨known, nothing⟩ | ⟨none, absent, exposed⟩
    · rw [nothing, FileSet.union_empty]
      exact (synced.of_holds j.plt_mem (here.trans known)).1
    · rw [none] at synced
      obtain ⟨actual, before, after⟩ := synced.of_empty some
      have brought : w.exposed = .holds actual := exposed.symm.trans (here.symm.trans before)
      rw [after, stale_of_exposed fresh none absent brought, FileSet.union_comm]
  · intro known_
    obtain ⟨complete, unharmed⟩ := synced.of_holds j.plt_mem (here.trans known_)
    exact ⟨.inr (.inr (.inr complete)), unharmed.readable j.basePlt j.basePlt_mem (readable known_)⟩

/-- A project PLT that is built for want of a base PLT. -/
theorem built_ends (keeps : j.keeper.Keeps format j.plts) (keys : w.required.Canonical j.keeper.cwd)
    (fresh : w.plt = .absent) (warnings : Nat) :
    (j.keeper.build j.plt w.required.toList >>= fun more => pure (warnings + more)).Ensures s
      (fun _ s' => s.Follows s' (j.keeper.ask .build j.plt w.required) ∧
        (w.required ≠ ∅ → s'.tree.pltAt format j.keeper.cwd j.plt = .holds w.required) ∧
        (s.tree.WellFormed → (∀ plt ∈ j.plts, ".." ∉ plt.parts) → j.Untouched format w.base s.tree →
          j.Recoverable format w s'.tree))
      fun _ s' => s.Stops s' (j.keeper.ask .build j.plt w.required) ∧
        (j.keeper.backend.FailsCleanly format j.keeper.cwd j.plts → s.tree.WellFormed →
          (∀ plt ∈ j.plts, ".." ∉ plt.parts) → j.Untouched format w.base s.tree →
          j.Recoverable format w s'.tree) := by
  refine (Keeper.build_ends keeps keys j.plt_mem s).bind ?_ ?_
  · rintro e s' ⟨stops, cleanly⟩
    refine ⟨stops, fun clean formed plain untouched => ?_⟩
    have later := untouched.later (formed.samePlts_makeDirs plain j.plt.parent)
    rcases cleanly clean with same | analysed
    · exact (later.later same).recoverable fresh
    · exact later.recoverable_of_built analysed.built
  rintro more s' ⟨follows, phased⟩
  rw [Act.ensures_pure]
  refine ⟨follows, fun some => (phased.2 some).built.here, fun formed plain untouched => ?_⟩
  have later := untouched.later (formed.samePlts_makeDirs plain j.plt.parent)
  by_cases none : w.required = ∅
  · rw [phased.1 none]
    exact later.recoverable fresh
  · exact later.recoverable_of_built (phased.2 none).built

/-- A project PLT that is made is what is required, and what a copy brought along. -/
theorem makeProjectPlt_ends (keeps : j.keeper.Keeps format j.plts) (keys : w.required.Canonical j.keeper.cwd)
    (finds : j.Finds format w s) (fresh : w.plt = .absent) :
    (j.makeProjectPlt w.required).Ensures s
      (fun _ s' => s.Follows s' (j.plannedFresh w) ∧
        (w.required ≠ ∅ → s'.tree.pltAt format j.keeper.cwd j.plt = .holds (w.required ∪ w.stale)) ∧
        (j.Calm format s.tree → j.Recoverable format w s'.tree))
      fun _ s' => s.Stops s' (j.plannedFresh w) ∧
        (j.keeper.backend.FailsCleanly format j.keeper.cwd j.plts → j.Calm format s.tree →
          j.Recoverable format w s'.tree) := by
  have absent : s.tree.pltAt format j.keeper.cwd j.plt = .absent := finds.plt.symm.trans fresh
  have baseKeys : w.base.Canonical j.keeper.cwd := fun file member => keys file (finds.within file member)
  obtain ⟨s₁, resolved⟩ :=
    finds.base { s with log := s.log ++ [⟨.info, "Updating base plt..."⟩] } rfl rfl
  have logged := ((j.baseFiles_ends _).of_ok resolved).1
  have begun : s.Follows s₁ [] := (Session.Follows.refl s).logged.trans logged.follows
  have sameTree : s₁.tree = s.tree := logged.tree
  rw [← sameTree] at absent ⊢
  have finds := finds.later sameTree begun.searchPath
  unfold makeProjectPlt
  rw [Act.ensures_bind, Act.ensures_info, Act.ensures_bind, Act.ensures_of_ok resolved]
  refine (updateBase_ends keeps baseKeys finds.basePlt).bind ?_ ?_
  · rintro e s' ⟨stops, cleanly⟩
    refine ⟨(begun.then_stops stops).append _, fun clean calm => ?_⟩
    exact ((cleanly clean).untouched calm absent).recoverable fresh
  rintro _ s₂ ⟨follows, updated⟩
  have followed : s.Follows s₂ (j.plannedBase w) := begun.trans follows
  have state := updated.state finds.basePlt finds.exposed
  have calmLater : j.Calm format s₁.tree → s₂.tree.WellFormed := fun calm => follows.formed calm.formed
  have met : w.basePlt ≠ .unreadable := finds.basePlt ▸ updated.met
  -- Whether the base PLT is a file decides how the plan goes on, and its state decides that.
  rw [Act.ensures_bind, Act.ensures_ofTree]
  constructor
  · intro there answered
    have present := FileTree.isFile_iff_pltAt format answered
    rw [state] at present
    rw [Act.ensures_ite]
    constructor
    · intro isThere
      have there := present.mp isThere
      have planned : j.plannedFresh w =
          j.plannedBase w ++ j.keeper.syncRequests j.plt w.base w.required := by
        rw [syncRequests_of_within finds.within]
        simp [plannedFresh, there]
      rw [planned]
      refine (copied_ends keeps baseKeys keys finds.within fresh met _ state there).mono ?_ ?_
      · rintro n s' ⟨later, complete, recoverable⟩
        refine ⟨followed.trans later, complete, fun calm => ?_⟩
        exact recoverable (finds.updatedBase_of_calm calm there)
      · rintro e s' ⟨stops, recoverable⟩
        refine ⟨followed.then_stops stops, fun clean calm => ?_⟩
        exact recoverable clean (finds.updatedBase_of_calm calm there) (calmLater calm) calm.plain
          (updated.untouched calm absent)
    · intro notThere
      have missing : w.updatedBase = .absent :=
        Decidable.not_not.mp fun there => notThere (present.mpr there)
      have planned : j.plannedFresh w = j.plannedBase w ++ j.keeper.ask .build j.plt w.required := by
        simp [plannedFresh, missing]
      have nothing : w.stale = ∅ := by
        rcases updatedBase_cases fresh met with ⟨-, nothing⟩ | ⟨-, -, exposed⟩
        · exact nothing
        · exact stale_of_unexposed (exposed.symm.trans missing)
      rw [planned, nothing, FileSet.union_empty]
      refine (built_ends keeps keys fresh _).mono ?_ ?_
      · rintro n s' ⟨later, complete, recoverable⟩
        refine ⟨followed.trans later, complete, fun calm => ?_⟩
        exact recoverable (calmLater calm) calm.plain (updated.untouched calm absent)
      · rintro e s' ⟨stops, recoverable⟩
        refine ⟨followed.then_stops stops, fun clean calm => ?_⟩
        exact recoverable clean (calmLater calm) calm.plain (updated.untouched calm absent)
  · intro e _
    refine ⟨followed.stops.append _, fun _ calm => ?_⟩
    exact (updated.untouched calm absent).recoverable fresh

/-! ## The project PLT -/

theorem finds_situation (format : PltFormat) (yields : j.requiredFiles.Yields s w.required)
    (same : w = j.situation format s) : j.Finds format w s := by
  obtain ⟨base, within, resolves⟩ := base_of_required yields
  have found : w.base = base := by
    rw [same]
    exact (resolves s rfl rfl).resolved
  refine ⟨?_, ?_, ?_, ?_, ?_⟩
  · rw [found]
    exact resolves
  · rw [found]
    exact within
  · rw [same]
    rfl
  · rw [same]
    rfl
  · rw [same]
    rfl

/-- The maintenance of a run. It ends with just the required files in the project PLT, but for those
that a copy brought along unnoticed. If nothing is required of a PLT that is not there, none need be
made. Where it stops before it knows what is required, it has done nothing. -/
theorem updateProject_ends (keeps : j.keeper.Keeps format j.plts) (updating : j.settings.updatePlt.isSet)
    (same : w = j.situation format s) :
    j.updateProject.Ensures s
      (fun _ s' => s.Follows s' (j.plannedUpdate w) ∧ j.requiredFiles.Yields s w.required ∧
        ((w.plt = .absent → w.required ≠ ∅) →
          s'.tree.pltAt format j.keeper.cwd j.plt = .holds (w.required ∪ w.stale)) ∧
        (j.Calm format s.tree → j.Recoverable format w s'.tree))
      fun _ s' => s.Stops s' (j.plannedUpdate w) ∧
        (j.requiredFiles.Yields s w.required ∨ s'.tree = s.tree) ∧
        (j.keeper.backend.FailsCleanly format j.keeper.cwd j.plts → j.Calm format s.tree →
          j.Recoverable format w s'.tree) := by
  have pltState : w.plt = s.tree.pltAt format j.keeper.cwd j.plt := by rw [same]; rfl
  have basePltState : w.basePlt = s.tree.pltAt format j.keeper.cwd j.basePlt := by rw [same]; rfl
  have asBefore : ∀ t', t' = s.tree → j.Calm format s.tree → j.Recoverable format w t' := by
    rintro t' rfl calm
    exact ⟨.inl pltState.symm, calm.readable j.basePlt j.basePlt_mem⟩
  unfold updateProject plannedUpdate
  rw [if_pos updating, Act.ensures_ite]
  refine ⟨fun off => absurd updating (by simpa using off), fun _ => ?_⟩
  rw [Act.ensures_bind, Act.ensures_info]
  have ran := (Act.ensures_ran j.requiredFiles { s with log := s.log ++ [⟨.info, "Updating plt..."⟩] }).and
    (j.requiredFiles_ends _)
  refine ran.bind ?_ ?_
  · rintro e s' ⟨-, logged⟩
    have follows : s.Follows s' [] := (Session.Follows.refl s).logged.trans logged.follows
    exact ⟨follows.stops.append _, .inr logged.tree, fun _ => asBefore s'.tree logged.tree⟩
  rintro files s₁ ⟨resolved, logged, -⟩
  have begun : s.Follows s₁ [] := (Session.Follows.refl s).logged.trans logged.follows
  have sameTree : s₁.tree = s.tree := logged.tree
  have yields : j.requiredFiles.Yields s files :=
    requiredFiles_yields_of_same j ⟨s₁, resolved⟩ rfl rfl
  have known : w.required = files := by
    rw [same]
    exact yields.resolved
  rw [← known] at yields ⊢
  have keys := canonical_required keeps.rooted yields
  refine (Keeper.read_ends keeps j.plt_mem s₁).bind ?_ ?_
  · rintro e s' ⟨follows, unchanged⟩
    have unchanged := unchanged.trans sameTree
    exact ⟨(begun.trans follows).stops.append _, .inr unchanged, fun _ => asBefore s'.tree unchanged⟩
  rintro answer s₂ ⟨asked, unchanged, state⟩
  have asked := begun.trans asked
  have unchanged : s₂.tree = s.tree := unchanged.trans sameTree
  rw [sameTree, ← pltState] at state
  rw [state]
  cases answer with
  | some held =>
    have there : s₂.tree.pltAt format j.keeper.cwd j.plt = .holds held := by
      rw [unchanged, ← pltState, state]
      rfl
    have heldKeys := keeps.semantics.canonical_of_pltAt there
    have readable : j.Calm format s.tree → s₂.tree.pltAt format j.keeper.cwd j.basePlt ≠ .unreadable :=
      fun calm => unchanged ▸ calm.readable j.basePlt j.basePlt_mem
    refine (Keeper.sync_ends keeps heldKeys keys j.plt_mem s₂).mono ?_ ?_
    · rintro n s' ⟨follows, synced⟩
      obtain ⟨complete, unharmed⟩ := synced.of_holds j.plt_mem there
      refine ⟨asked.trans follows, yields, fun _ => ?_, fun calm => ?_⟩
      · rw [stale_of_holds state, FileSet.union_empty]
        exact complete
      · exact ⟨.inr (.inr (.inr complete)), unharmed.readable j.basePlt j.basePlt_mem (readable calm)⟩
    · rintro e s' ⟨stops, cleanly⟩
      refine ⟨asked.then_stops stops, .inl yields, fun clean calm => ?_⟩
      obtain ⟨reached, unharmed⟩ := (cleanly clean).of_holds j.plt_mem there
      refine ⟨?_, unharmed.readable j.basePlt j.basePlt_mem (readable calm)⟩
      rcases reached with before | shrunk | complete
      · exact .inl (before.trans state.symm)
      · exact .inr (.inr (.inl ⟨held, state, shrunk⟩))
      · exact .inr (.inr (.inr complete))
  | none =>
    have finds := (finds_situation format yields same).later unchanged asked.searchPath
    refine (makeProjectPlt_ends keeps keys finds state).mono ?_ ?_
    · rintro n s' ⟨follows, complete, recoverable⟩
      exact ⟨asked.trans follows, yields, fun some => complete (some rfl),
        fun calm => recoverable (unchanged.symm ▸ calm)⟩
    · rintro e s' ⟨stops, recoverable⟩
      exact ⟨asked.then_stops stops, .inl yields,
        fun clean calm => recoverable clean (unchanged.symm ▸ calm)⟩

/-- Success typing changes no PLT. -/
theorem successTyping_ends (keeps : j.keeper.Keeps format j.plts) (s : Session σ) :
    j.successTyping.Ensures s
      (fun _ s' => s.Follows s' (j.plannedTyping (j.ownFiles.resolved s)) ∧
        FileTree.SamePlts format j.keeper.cwd j.plts s.tree s'.tree)
      fun _ s' => s.Stops s' (j.plannedTyping (j.ownFiles.resolved s)) ∧
        (j.keeper.backend.FailsCleanly format j.keeper.cwd j.plts →
          FileTree.SamePlts format j.keeper.cwd j.plts s.tree s'.tree) := by
  unfold successTyping plannedTyping
  rw [Act.ensures_ite]
  constructor
  · intro off
    have off : ¬ j.settings.succTypings.isSet = true := by simpa using off
    rw [Act.ensures_pure, if_neg off]
    exact ⟨.refl s, .refl s.tree⟩
  intro on
  have on : j.settings.succTypings.isSet = true := by simpa using on
  rw [if_pos on, Act.ensures_bind, Act.ensures_info]
  have ran := (Act.ensures_ran j.ownFiles
    { s with log := s.log ++ [⟨.info, "Doing success typing analysis..."⟩] }).and (j.ownFiles_ends _)
  refine ran.bind ?_ ?_
  · rintro e s' ⟨-, logged⟩
    have follows : s.Follows s' [] := (Session.Follows.refl s).logged.trans logged.follows
    exact ⟨follows.stops.append _, fun _ => logged.tree ▸ .refl s'.tree⟩
  rintro files s₁ ⟨resolved, logged, -⟩
  have begun : s.Follows s₁ [] := (Session.Follows.refl s).logged.trans logged.follows
  have sameTree : s₁.tree = s.tree := logged.tree
  have yields : j.ownFiles.Yields s files := ownFiles_yields_of_same j ⟨s₁, resolved⟩ rfl
  have keys : files.Canonical j.keeper.cwd := canonical_own keeps.rooted yields
  rw [yields.resolved, Act.ensures_bind, Act.ensures_info, ← sameTree]
  refine (Keeper.runPhase_ends keeps keys j.plt_mem .successTyping _).mono ?_ ?_
  · rintro n s' ⟨follows, phased⟩
    exact ⟨begun.logged.trans follows, phased.same rfl⟩
  · rintro e s' ⟨follows, cleanly⟩
    refine ⟨(begun.logged.trans follows).stops, fun clean => ?_⟩
    exact (cleanly clean).elim id fun analysed => analysed.same rfl

end Job

end PltKeeper
