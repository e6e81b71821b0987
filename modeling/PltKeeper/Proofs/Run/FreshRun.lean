import PltKeeper.Proofs.Run.Accounting
import PltKeeper.Proofs.Run.Restart

/-! Fresh runs: neither PLT is there yet. The base PLT is built first, and its copy is where the project PLT
starts from. That takes two files. Where both paths lead to one file, the base PLT that was just built would
have to be copied onto itself; this is refused, and it is the one thing that can stop a fresh run in whose way
nothing else stands. Without base applications nothing is built, and so nothing copied. -/
namespace PltKeeper

variable {σ : Type}

namespace FileTree

variable {format : PltFormat} {cwd : String} {plts files : List Path} {plt p q : Path} {t t' room : FileTree}
  {l m : Location}

/-! ## Places without a file -/

/-- There is no file at the places that these paths lead to once all their directories are made. -/
def Vacant (room : FileTree) (cwd : String) (plts : List Path) (t : FileTree) : Prop :=
  ∀ plt ∈ plts, ∀ l bytes, room.reach cwd plt = .ok l → t.at? l ≠ some (.file bytes)

/-- Where a path leads does not change on the way to the room. -/
theorem FitsInto.reach (fits : t.FitsInto room) (reached : t.reach cwd p = .ok l) : room.reach cwd p = .ok l :=
  reach_of_dirs (fun _ dir => fits.dirs dir) reached

theorem Vacant.absent (vacant : Vacant room cwd plts t) (fits : t.FitsInto room) (member : plt ∈ plts) :
    t.pltAt format cwd plt = .absent := by
  rw [pltAt_eq_absent_iff]
  cases found : t.bytesAt? cwd plt with
  | none => rfl
  | some bytes =>
    obtain ⟨l, reached, entry⟩ := bytesAt?_eq_some_iff.mp found
    exact absurd entry (vacant plt member l bytes (fits.reach reached))

theorem Vacant.grows (vacant : Vacant room cwd plts t) (grown : t.Grows t') : Vacant room cwd plts t' :=
  fun plt member l bytes reached entry => vacant plt member l bytes reached (grown.noFile entry)

/-- A file that is written elsewhere is at none of these places. -/
theorem Vacant.modify {change : List UInt8 → List UInt8} (vacant : Vacant room cwd plts t)
    (fits : t.FitsInto room) (apart : ∀ plt ∈ plts, ¬ room.SameFile cwd plt p)
    (done : t.modify cwd p change = .ok t') : Vacant room cwd plts t' := by
  obtain ⟨here, reached, notDir, -, rfl⟩ := modify_eq_ok done
  intro plt member l bytes inRoom entry
  rw [at?_put t here l _ (ne_root_of_at? notDir)] at entry
  by_cases same : l = here
  · exact apart plt member ⟨l, inRoom, same ▸ fits.reach reached⟩
  · rw [if_neg same] at entry
    exact vacant plt member l bytes inRoom entry

/-- There is room for files, and none where nothing comes within reach. -/
theorem HasRoom.roomy_vacant (space : t.HasRoom cwd files) (formed : t.WellFormed)
    (absent : ∀ plt ∈ plts, ∀ t', t.Grows t' → t'.pltAt format cwd plt = .absent) :
    ∃ room, Roomy room cwd files t ∧ Vacant room cwd plts t := by
  obtain ⟨room, grown, each⟩ := space
  have fits : t.FitsInto room := ⟨fun dir => grown.kept dir, fun file => by simp [grown.kept file]⟩
  refine ⟨room, ⟨formed, fits, fun p member => (each p member).1, fun p member => (each p member).2⟩, ?_⟩
  intro plt member l bytes reached entry
  have found : room.bytesAt? cwd plt = some bytes := bytesAt?_eq_some_iff.mpr ⟨l, reached, grown.kept entry⟩
  have absent := pltAt_eq_absent_iff.mp (absent plt member room grown)
  exact nomatch found.symm.trans absent

/-- Whether two paths lead to one file can be told as soon as they lead anywhere. -/
theorem FitsInto.sameFile_iff (fits : t.FitsInto room) (first : t.reach cwd p = .ok l)
    (second : t.reach cwd q = .ok m) : t.SameFile cwd p q ↔ room.SameFile cwd p q := by
  constructor
  · rintro ⟨l', reached, reached'⟩
    exact ⟨l', fits.reach reached, fits.reach reached'⟩
  · rintro ⟨l', inRoom, inRoom'⟩
    cases (fits.reach first).symm.trans inRoom
    cases (fits.reach second).symm.trans inRoom'
    exact ⟨l, first, second⟩

/-- A file is not copied onto itself. -/
theorem copy_of_sameFile (same : t.SameFile cwd p q) {bytes : List UInt8} (found : t.bytesAt? cwd p = some bytes) :
    ∃ cause, t.copy cwd p q = .error (.system cause) := by
  obtain ⟨l, reached, reached'⟩ := same
  obtain ⟨l', reachedFile, entry⟩ := bytesAt?_eq_some_iff.mp found
  cases reached.symm.trans reachedFile
  exact ⟨_, by simp [copy, reached, reached', entry]; rfl⟩

end FileTree

namespace Job

variable {host : Host} {backend : Backend σ} {settings : Settings} {project : Project} {runtime : OtpRuntime}
  {j : Job σ} {format : PltFormat} {w : Situation} {s s₁ : Session σ} {room : FileTree}
  {base required : FileSet}

open FileTree

/-- A tree that is sturdy for the run, and in which there is neither PLT. -/
structure Fresh (j : Job σ) (room t : FileTree) : Prop where
  sturdy : j.Sturdy room t
  vacant : Vacant room j.keeper.cwd j.plts t

theorem Fresh.absent (fresh : j.Fresh room s.tree) {plt : Path} (member : plt ∈ j.plts) :
    s.tree.pltAt format j.keeper.cwd plt = .absent := fresh.vacant.absent fresh.sturdy.roomy.fits member

/-- The report of a fresh run begins, and leaves it fresh. -/
theorem beginReport_fresh (apart : ∀ plt ∈ j.plts, ∀ t : FileTree, ¬ t.SameFile j.keeper.cwd plt j.keeper.output)
    (roomy : Roomy room j.keeper.cwd (j.keeper.output :: j.plts) s.tree)
    (vacant : Vacant room j.keeper.cwd j.plts s.tree) :
    j.keeper.beginReport.Succeeds s fun _ s' => j.Fresh room s'.tree := by
  obtain ⟨t, made, madeRoomy, grown, -⟩ := roomy.makeDirs List.mem_cons_self
  have vacates : j.keeper.beginReport.Ensures s (fun _ s' => Vacant room j.keeper.cwd j.plts s'.tree)
      fun _ _ => True := by
    refine Keeper.ensures_beginReport (fun t' written => ?_) fun _ => trivial
    rw [made] at written
    exact (vacant.grows grown).modify madeRoomy.fits (fun plt member => apart plt member room) written
  exact ((Keeper.beginReport_succeeds roomy).and vacates).mono (fun _ _ both => ⟨both.1, both.2⟩) fun _ _ no => no

section
variable (keeps : j.keeper.Keeps format j.plts) (serves : j.keeper.backend.Serves format j.keeper.cwd j.plts)
  (legible : j.keeper.Legible)
include keeps serves legible

/-- A base PLT that is not there is built, unless there is nothing to build it of. -/
theorem updateBase_fresh (keys : w.base.Canonical j.keeper.cwd) (fresh : j.Fresh room s.tree)
    (found : w.basePlt = s.tree.pltAt format j.keeper.cwd j.basePlt) :
    (j.updateBase w.base).Succeeds s fun _ s' => j.Sturdy room s'.tree ∧
      (w.base = ∅ → s'.tree.pltAt format j.keeper.cwd j.basePlt = .absent) ∧
      (w.base ≠ ∅ → s'.tree.pltAt format j.keeper.cwd j.basePlt = .holds w.base) := by
  have readable : j.Readable format s.tree := fun plt member => by simp [fresh.absent member]
  have updates := (updateBase_succeeds keeps serves legible keys readable fresh.sturdy).and
    (updateBase_ends keeps keys found)
  refine updates.mono ?_ fun _ _ never => never
  rintro n s' ⟨sturdy, -, updated⟩
  refine ⟨sturdy, ?_⟩
  cases updated with
  | synced there _ => exact nomatch there.symm.trans (fresh.absent j.basePlt_mem)
  | built _ phased =>
    refine ⟨fun none => ?_, fun some => (phased.2 some).built.here⟩
    have sameTree := phased.1 none
    have vacant := fresh.vacant.grows (makeDirs_grows s.tree j.keeper.cwd j.basePlt.parent)
    rw [← sameTree] at vacant
    exact vacant.absent sturdy.roomy.fits j.basePlt_mem

omit keeps serves legible in
/-- A base PLT that is there is copied to another file, and not onto itself. -/
theorem copyBase_fresh (sturdy : j.Sturdy room s.tree)
    (there : s.tree.pltAt format j.keeper.cwd j.basePlt = .holds base) :
    j.copyBase.Ensures s
      (fun _ s' => j.Sturdy room s'.tree ∧ ¬ room.SameFile j.keeper.cwd j.plt j.basePlt)
      fun e s' => (∃ cause, e = .tool (.copyFailed j.basePlt j.plt (.system cause))) ∧
        s'.tree.SameFile j.keeper.cwd j.plt j.basePlt ∧
        s'.tree.pltAt format j.keeper.cwd j.basePlt = .holds base := by
  obtain ⟨t, made, sturdy, writable⟩ := sturdy.makeDirs j.plt_mem
  have present : s.tree.pltAt format j.keeper.cwd j.basePlt ≠ .absent := by simp [there]
  have kept := ((makeDirs_grows s.tree j.keeper.cwd j.plt.parent).pltAt present).trans there
  rw [made] at kept
  obtain ⟨bytes, found⟩ : ∃ bytes, t.bytesAt? j.keeper.cwd j.basePlt = some bytes :=
    Option.ne_none_iff_exists'.mp fun none => nomatch kept.symm.trans (pltAt_eq_absent_iff.mpr none)
  obtain ⟨source, reachedSource, -⟩ := bytesAt?_eq_some_iff.mp found
  obtain ⟨target, reachedTarget, -⟩ := id writable
  have sameFile := sturdy.roomy.fits.sameFile_iff reachedTarget reachedSource
  unfold copyBase
  refine Act.ensures_bind.mpr (Act.ensures_info.mpr (Act.ensures_restate_iff.mpr (Act.ensures_bind.mpr ?_)))
  refine Act.ensures_changePartly.mpr ⟨fun _ => ?_, fun e failed => by rw [made] at failed; cases failed⟩
  rw [made]
  refine Act.ensures_change.mpr ⟨fun t' copied => ?_, fun e refused => ?_⟩
  · obtain ⟨_, _, written, apart⟩ := copy_eq_ok copied
    refine ⟨sturdy.modify (List.mem_cons_of_mem _ j.plt_mem) written, fun same => apart ?_⟩
    obtain ⟨l, first, second⟩ := sameFile.mpr same
    exact ⟨l, second, first⟩
  · by_cases same : t.SameFile j.keeper.cwd j.basePlt j.plt
    · obtain ⟨cause, onto⟩ := copy_of_sameFile same found
      cases onto.symm.trans refused
      obtain ⟨l, first, second⟩ := same
      exact ⟨⟨cause, rfl⟩, ⟨l, second, first⟩, kept⟩
    · obtain ⟨t', copied⟩ := writable.copy found same
      exact nomatch copied.symm.trans refused

/-- What a fresh project PLT is stopped by: a base PLT that would have to be copied onto itself. -/
def OntoItself (j : Job σ) (format : PltFormat) (base : FileSet) (e : Failure) (t : FileTree) : Prop :=
  base ≠ ∅ ∧ (∃ cause, e = .tool (.copyFailed j.basePlt j.plt (.system cause))) ∧
    t.SameFile j.keeper.cwd j.plt j.basePlt ∧ t.pltAt format j.keeper.cwd j.basePlt = .holds base

theorem makeProjectPlt_fresh (keys : w.required.Canonical j.keeper.cwd) (finds : j.Finds format w s)
    (fresh : j.Fresh room s.tree) :
    (j.makeProjectPlt w.required).Ensures s
      (fun _ s' => j.Sturdy room s'.tree ∧ (w.base ≠ ∅ → ¬ room.SameFile j.keeper.cwd j.plt j.basePlt))
      fun e s' => j.OntoItself format w.base e s'.tree := by
  have baseKeys : w.base.Canonical j.keeper.cwd := fun file member => keys file (finds.within file member)
  obtain ⟨s₁, resolved⟩ :=
    finds.base { s with log := s.log ++ [⟨.info, "Updating base plt..."⟩] } rfl rfl
  obtain ⟨records, rfl⟩ := ((j.baseFiles_ends _).of_ok resolved).1
  unfold makeProjectPlt
  refine Act.ensures_bind.mpr (Act.ensures_info.mpr (Act.ensures_bind.mpr ?_))
  rw [Act.ensures_of_ok resolved]
  refine Act.Ensures.bind (updateBase_fresh keeps serves legible baseKeys fresh finds.basePlt)
    (fun _ _ never => never.elim) ?_
  rintro warnings s₂ ⟨sturdy, absent, holds⟩
  obtain ⟨known, answered⟩ := sturdy.roomy.isFile (List.mem_cons_of_mem _ j.basePlt_mem)
  refine Act.ensures_bind.mpr (Act.ensures_ofTree.mpr ⟨?_, fun e failed => nomatch answered.symm.trans failed⟩)
  intro there answered
  have present := isFile_iff_pltAt format answered
  refine Act.ensures_ite.mpr ⟨fun isThere => ?_, fun notThere => ?_⟩
  · have some : w.base ≠ ∅ := fun none => present.mp isThere (absent none)
    refine ((copyBase_fresh sturdy (holds some)).and (copyBase_ends (present.mp isThere))).bind ?_ ?_
    · rintro e s' ⟨⟨cause, same, left⟩, -⟩
      exact ⟨some, cause, same, left⟩
    · rintro _ s₃ ⟨⟨sturdy, apart⟩, -, here, -⟩
      have here := here.trans (holds some)
      refine Act.Ensures.bind (Keeper.sync_succeeds keeps serves legible baseKeys keys j.plt_mem sturdy here)
        (fun _ _ never => never.elim) fun more s₄ sturdy => ?_
      exact Act.ensures_pure.mpr ⟨sturdy, fun _ => apart⟩
  · have none : w.base = ∅ := Decidable.byContradiction fun some =>
      notThere (present.mpr (by simp [holds some]))
    refine Act.Ensures.bind (Keeper.build_succeeds serves legible keys j.plt_mem sturdy)
      (fun _ _ never => never.elim) fun more s₃ sturdy => ?_
    exact Act.ensures_pure.mpr ⟨sturdy, fun some => absurd none some⟩

theorem updateProject_fresh (updating : j.settings.updatePlt.isSet = true)
    (yields : j.requiredFiles.Yields s (j.situation format s).required) (fresh : j.Fresh room s.tree) :
    j.updateProject.Ensures s
      (fun _ s' => j.Sturdy room s'.tree ∧
        ((j.situation format s).base ≠ ∅ → ¬ room.SameFile j.keeper.cwd j.plt j.basePlt))
      fun e s' => j.OntoItself format (j.situation format s).base e s'.tree := by
  obtain ⟨s₁, resolved⟩ : j.requiredFiles.Yields
      { s with log := s.log ++ [⟨.info, "Updating plt..."⟩] } (j.situation format s).required :=
    requiredFiles_yields_of_same j yields rfl rfl
  obtain ⟨records, rfl⟩ := ((j.requiredFiles_ends _).of_ok resolved).1
  have keys := canonical_required keeps.rooted yields
  unfold updateProject
  refine Act.ensures_ite.mpr ⟨fun off => absurd updating (by simpa using off), fun _ => ?_⟩
  refine Act.ensures_bind.mpr (Act.ensures_info.mpr (Act.ensures_bind.mpr ?_))
  rw [Act.ensures_of_ok resolved]
  have readable : s.tree.pltAt format j.keeper.cwd j.plt ≠ .unreadable := by simp [fresh.absent j.plt_mem]
  refine Act.Ensures.bind (Keeper.read_succeeds keeps serves j.plt_mem readable) (fun _ _ never => never.elim) ?_
  rintro answer s₂ ⟨asked, unchanged, state⟩
  cases answer with
  | some held => exact nomatch state.symm.trans (fresh.absent j.plt_mem)
  | none =>
    have finds := (finds_situation format yields rfl).later unchanged asked.searchPath
    exact makeProjectPlt_fresh keeps serves legible keys finds (unchanged.symm ▸ fresh)

end

/-- What is not there does not come within reach of a path that goes up nowhere. -/
theorem absent_of_grows {t : FileTree} {cwd : String} (formed : t.WellFormed)
    (absent : ∀ plt ∈ j.plts, t.pltAt format cwd plt = .absent)
    (hidden : ∀ plt ∈ j.plts, ".." ∈ plt.parts → ∀ t', t.Grows t' → t'.pltAt format cwd plt = .absent) :
    ∀ plt ∈ j.plts, ∀ t', t.Grows t' → t'.pltAt format cwd plt = .absent := by
  intro plt member t' grown
  by_cases goesUp : ".." ∈ plt.parts
  · exact hidden plt member goesUp t' grown
  · have before := pltAt_eq_absent_iff.mp (absent plt member)
    exact pltAt_eq_absent_iff.mpr ((grown.bytesAt?_plain formed goesUp).trans before)

/-- Making the base PLT's directory brings no PLT within reach of a fresh run. -/
theorem Fresh.unexposed (fresh : j.Fresh room s.tree) : (j.situation format s).exposed = .absent := by
  have vacant := fresh.vacant.grows (makeDirs_grows s.tree j.keeper.cwd j.basePlt.parent)
  obtain ⟨t, madeDirs, sturdy, -⟩ := fresh.sturdy.makeDirs j.basePlt_mem
  rw [madeDirs] at vacant
  change (s.tree.makeDirs j.keeper.cwd j.basePlt.parent).2.pltAt format j.keeper.cwd j.basePlt = .absent
  rw [madeDirs]
  exact vacant.absent sturdy.roomy.fits j.basePlt_mem

theorem steps_of_update_error {output : Path} {e : Failure} {s₂ : Session σ}
    (begun : j.keeper.beginReport (j.opened s) = .ok output s₁) (failed : j.updateProject s₁ = .error e s₂) :
    j.steps (j.opened s) = .error e s₂ := by
  rw [steps_of_begun begun]
  unfold work
  simp only [bind, EStateM.bind, failed]

/-- A fresh run in whose way nothing stands fails just where the base PLT was built and is the same file as the
project PLT: it is not copied onto itself, and the base set is all that the PLT holds then. Any other one
leaves the project PLT with exactly the files required. -/
theorem fresh_run (made : Job.of host backend settings project runtime = .ok j) (rooted : Path.Rooted host.cwd)
    (semantics : backend.SetSemantics format host.cwd j.plts) (updating : settings.updatePlt.isSet = true)
    (formed : s.tree.WellFormed) (absent : ∀ plt ∈ j.plts, s.tree.pltAt format host.cwd plt = .absent)
    (hidden : ∀ plt ∈ j.plts, ".." ∈ plt.parts → ∀ t, s.tree.Grows t → t.pltAt format host.cwd plt = .absent)
    (unhindered : j.Unhindered format required s) :
    ∃ o s' base, j.run s = .ok o s' ∧ (∀ s₁, j.Begins s s₁ → j.baseFiles.Yields s₁ base) ∧
      (o.status = .failed ↔ base ≠ ∅ ∧ s'.tree.SameFile host.cwd j.plt j.basePlt) ∧
      (o.status ≠ .failed → required ≠ ∅ → s'.tree.pltAt format host.cwd j.plt = .holds required) ∧
      (o.status = .failed → s'.tree.pltAt format host.cwd j.basePlt = .holds base ∧
        ∃ cause, o.error = some (.tool (.copyFailed j.basePlt j.plt (.system cause)))) := by
  have keeps := Job.keeps_of made rooted semantics
  have apart := Job.apart_of made
  obtain ⟨_, _, _, -, directory, rfl, -⟩ := Job.of_eq_ok made
  have grown := absent_of_grows formed absent hidden
  rw [← directory] at grown ⊢
  obtain ⟨room, roomy, vacant⟩ := unhindered.room.roomy_vacant formed grown
  obtain ⟨output, s₁, begun, fresh⟩ := (beginReport_fresh (s := j.opened s) apart roomy vacant).eq_ok
  let w := j.situation format s₁
  have yields := unhindered.required s₁ ⟨output, begun⟩
  have known : w.required = required := yields.resolved
  rw [← known] at yields
  have baseYields := (finds_situation format yields rfl).base s₁ rfl rfl
  have once : ∀ s₂, j.Begins s s₂ → j.baseFiles.Yields s₂ w.base := by
    rintro s₂ ⟨_, again⟩
    cases begun.symm.trans again
    exact baseYields
  have updates := (updateProject_fresh keeps unhindered.serves unhindered.legible updating yields fresh).and
    (updateProject_ends keeps updating rfl)
  cases updated : j.updateProject s₁ with
  | ok n s₂ =>
    obtain ⟨⟨sturdy, different⟩, -, -, complete, -⟩ := updates.of_ok updated
    obtain ⟨o, s', ran, notFailed, sturdy, same⟩ := run_of_updated keeps unhindered begun updated sturdy
    refine ⟨o, s', w.base, ran, once, iff_of_false notFailed ?_, fun _ some => ?_,
      fun failed => absurd failed notFailed⟩
    · rintro ⟨some, l, first, second⟩
      exact different some ⟨l, sturdy.roomy.fits.reach first, sturdy.roomy.fits.reach second⟩
    · have complete := complete fun _ => known.symm ▸ some
      rw [stale_of_unexposed fresh.unexposed, FileSet.union_empty, known] at complete
      exact (same j.plt j.plt_mem).trans complete
  | error e s₂ =>
    obtain ⟨⟨some, ⟨cause, rfl⟩, sameFile, holds⟩, -⟩ := updates.of_error updated
    obtain ⟨s', ⟨path, log, rfl⟩, ran⟩ := run_of_stopped (steps_of_update_error begun updated) rfl
    exact ⟨_, _, w.base, ran, once, iff_of_true rfl ⟨some, sameFile⟩, fun notFailed => absurd rfl notFailed,
      fun _ => ⟨holds, cause, rfl⟩⟩

/-! ## A project without PLTs -/

/-- A run with a base application, for a base PLT in this directory. -/
def freshJob (baseLocation : String) : Except Failure (Job Nat) :=
  Job.of Exact.host (Exact.backend "/w" (fun _ => none) [])
    { Exact.settings baseLocation with baseApps := .arr [.str "dep"] } Exact.project ⟨"26", Path.parse "/otp"⟩

/-- A session in which there is no PLT, but room for both. -/
def freshSession : Session Nat :=
  Exact.sessionIn ⟨Exact.tree.entries.dropLast ++ [(["w", "b"], .dir)]⟩

/-- Whether a file can be written at a path, as can be computed. -/
def canWrite (t : FileTree) (cwd : String) (p : Path) : Bool :=
  match t.reach cwd p with
  | .ok l => t.at? l ≠ some .dir && t.at? l.dropLast = some .dir
  | .error _ => false

theorem writable_of_canWrite {t : FileTree} {cwd : String} {p : Path} (can : canWrite t cwd p = true) :
    t.Writable cwd p := by
  unfold canWrite at can
  split at can
  · rename_i l reached
    simp only [Bool.and_eq_true, decide_eq_true_eq] at can
    exact ⟨l, reached, can⟩
  · cases can

/-- What a fresh run relies on, as can be computed. -/
def freshCheck (j : Job Nat) : Bool :=
  (j.plts.all fun plt => !plt.parts.contains ".." &&
    freshSession.tree.pltAt (Exact.contents "/w") "/w" plt = .absent) &&
  ((j.keeper.output :: j.plts).all fun p =>
    freshSession.tree.at? (startOf "/w" p) = some .dir && canWrite freshSession.tree "/w" p) &&
  j.keeper.beginReport.check (j.opened freshSession) fun _ begun =>
    j.requiredFiles.check begun fun required _ => required ≠ ∅ &&
      match j.updateProject begun with
      | .ok _ updated => j.ownFiles.check updated fun _ _ => true
      | .error _ _ => true

/-- A run that passes is one that nothing stands in the way of. -/
theorem unhindered_of_freshCheck {baseLocation : String} {j : Job Nat} (made : freshJob baseLocation = .ok j)
    (passed : freshCheck j = true) :
    (∀ plt ∈ j.plts, ".." ∉ plt.parts ∧ freshSession.tree.pltAt (Exact.contents "/w") "/w" plt = .absent) ∧
      ∃ required, required ≠ ∅ ∧ j.Unhindered (Exact.contents "/w") required freshSession := by
  simp only [freshCheck, Bool.and_eq_true, List.all_eq_true, decide_eq_true_eq] at passed
  obtain ⟨⟨plts, places⟩, begins⟩ := passed
  obtain ⟨output, begun, begins, passed⟩ := Act.of_check begins
  obtain ⟨required, rest, resolved, passed⟩ := Act.of_check passed
  simp only [Bool.and_eq_true, decide_eq_true_eq] at passed
  obtain ⟨some, passed⟩ := passed
  obtain ⟨_, _, _, sameBackend, directory, _⟩ := Job.of_eq_ok made
  refine ⟨fun plt member => ⟨by simpa using (plts plt member).1, (plts plt member).2⟩, required, some, ?_⟩
  refine unhindered_of_begun ?_ (legible_of_exact made (fun _ _ => rfl) (List.forall_mem_nil _)) ?_ begins resolved
    fun n updated ran => ?_
  · rw [sameBackend, directory]
    exact Exact.serves
  · rw [directory]
    exact ⟨_, .refl _, fun p member => ⟨(places p member).1, writable_of_canWrite (places p member).2⟩⟩
  · rw [ran] at passed
    obtain ⟨own, after, resolvedOwn, -⟩ := Act.of_check passed
    exact ⟨own, after, resolvedOwn⟩

/-- With two files the run comes through, and the project PLT is complete. -/
theorem fresh_run_of_two_files : ∃ j o s' required, freshJob "/w/s" = .ok j ∧ j.run freshSession = .ok o s' ∧
    o.status ≠ .failed ∧ required ≠ ∅ ∧ s'.tree.pltAt (Exact.contents "/w") "/w" j.plt = .holds required := by
  have checked : checkRun (freshJob "/w/s") freshSession (fun j o _ =>
      o.status ≠ .failed && freshCheck j) = true := by decide +kernel
  obtain ⟨j, o, s', made, ran, checked⟩ := of_checkRun checked
  simp only [Bool.and_eq_true, decide_eq_true_eq] at checked
  obtain ⟨notFailed, passed⟩ := checked
  obtain ⟨plts, required, some, unhindered⟩ := unhindered_of_freshCheck made passed
  have formed : freshSession.tree.WellFormed := wellFormed_of_entries (by decide)
  obtain ⟨o', s'', _, ran', -, -, complete, -⟩ := fresh_run made Exact.rooted_host (Exact.setSemantics Exact.rooted_host)
    rfl formed (fun plt member => (plts plt member).2) (fun plt member up => absurd up (plts plt member).1) unhindered
  cases ran.symm.trans ran'
  exact ⟨j, o, s', required, made, ran, notFailed, some, complete notFailed some⟩

/-- With the base PLT in the directory of the project PLT there is one file only, and a run that has everything
that it needs fails. -/
theorem fresh_run_counterexample :
    ¬ ∀ (host : Host) (backend : Backend Nat) (format : PltFormat) (settings : Settings) (project : Project)
      (runtime : OtpRuntime) (j : Job Nat) (s : Session Nat) (required : FileSet),
      Job.of host backend settings project runtime = .ok j → Path.Rooted host.cwd →
      backend.SetSemantics format host.cwd j.plts → settings.updatePlt.isSet = true → s.tree.WellFormed →
      (∀ plt ∈ j.plts, ∀ t, s.tree.Grows t → t.pltAt format host.cwd plt = .absent) →
      j.Unhindered format required s → ∃ o s', j.run s = .ok o s' ∧ o.status ≠ .failed := by
  intro claim
  have checked : checkRun (freshJob "/w/b") freshSession (fun j o _ =>
      o.status = .failed && freshCheck j) = true := by decide +kernel
  obtain ⟨j, o, s', made, ran, checked⟩ := of_checkRun checked
  simp only [Bool.and_eq_true, decide_eq_true_eq] at checked
  obtain ⟨failed, passed⟩ := checked
  obtain ⟨plts, required, -, unhindered⟩ := unhindered_of_freshCheck made passed
  have formed : freshSession.tree.WellFormed := wellFormed_of_entries (by decide)
  have absent := absent_of_grows formed (fun plt member => (plts plt member).2)
    fun plt member up => absurd up (plts plt member).1
  obtain ⟨o', s'', ran', notFailed⟩ := claim Exact.host _ (Exact.contents "/w") _ _ _ j freshSession required made
    Exact.rooted_host (Exact.setSemantics Exact.rooted_host) rfl formed absent unhindered
  cases ran.symm.trans ran'
  exact notFailed failed

end Job

end PltKeeper
