import PltKeeper.Proofs.Application.Objects
import PltKeeper.Proofs.Run.Accounting
import PltKeeper.Proofs.Tree.Refusals

/-! Runs that fail before any work is done. The warnings file comes first and all that is required is
resolved next, so a run that cannot make the one, or cannot find an application, has asked the backend
nothing and has recorded no phase. Of the tree it has touched the warnings file only; what else is new are
directories that lead there. They may let a path with `..` lead to a PLT that it did not lead to before, and
that PLT is as it was. -/
namespace PltKeeper

variable {σ : Type}

open FileTree

/-! ## What a tree keeps -/

namespace Job

/-- From the first tree to the second nothing is new but directories, these places aside, and each PLT is as
it was. -/
structure Spares (j : Job σ) (aside : Location → Prop) (t t' : FileTree) : Prop where
  /-- Elsewhere a directory was made at most, where nothing was. -/
  entries : ∀ l, ¬ aside l → t'.at? l = t.at? l ∨ t.at? l = none ∧ t'.at? l = some .dir
  /-- A PLT that was found is found, with the same bytes. -/
  found : ∀ plt ∈ j.plts, ∀ bytes, t.bytesAt? j.keeper.cwd plt = some bytes →
    t'.bytesAt? j.keeper.cwd plt = some bytes
  /-- One that is found was there, with the same bytes. -/
  there : ∀ plt ∈ j.plts, ∀ bytes, t'.bytesAt? j.keeper.cwd plt = some bytes →
    ∃ l, t'.reach j.keeper.cwd plt = .ok l ∧ t.at? l = some (.file bytes)
  /-- Where the path goes up nowhere it was found, too. -/
  plain : t.WellFormed → ∀ plt ∈ j.plts, ".." ∉ plt.parts →
    t'.bytesAt? j.keeper.cwd plt = t.bytesAt? j.keeper.cwd plt

variable {j : Job σ} {s s' s₁ : Session σ} {t t' t'' : FileTree}

/-- Making directories spares everything. -/
theorem spares_of_grows (grown : Grows t t') : j.Spares (fun _ => False) t t' where
  entries l _ := by
    cases before : t.at? l with
    | some e => exact .inl (grown.kept before)
    | none =>
      cases after : t'.at? l with
      | none => exact .inl rfl
      | some e =>
        cases e with
        | dir => exact .inr ⟨rfl, rfl⟩
        | file bytes => exact nomatch before.symm.trans (grown.noFile after)
  found plt _ bytes found := grown.bytesAt? found
  there plt _ bytes found := by
    obtain ⟨l, reached, entry⟩ := bytesAt?_eq_some_iff.mp found
    exact ⟨l, reached, grown.noFile entry⟩
  plain formed plt _ plain := grown.bytesAt?_plain formed plain

/-- Writing the warnings file spares everything else. -/
theorem Spares.write (spares : j.Spares (fun _ => False) t t') {bytes : List UInt8}
    (written : t'.write j.keeper.cwd j.keeper.output bytes = .ok t'')
    (apart : ∀ plt ∈ j.plts, ∀ t : FileTree, ¬ t.SameFile j.keeper.cwd plt j.keeper.output) :
    j.Spares (fun l => t''.reach j.keeper.cwd j.keeper.output = .ok l) t t'' := by
  have same : ∀ plt ∈ j.plts, t''.bytesAt? j.keeper.cwd plt = t'.bytesAt? j.keeper.cwd plt :=
    fun plt member => (bytesAt?_modify written).2.2 plt (apart plt member t')
  obtain ⟨here, reached, notDir, -, rfl⟩ := modify_eq_ok written
  constructor
  · intro l away
    have elsewhere : l ≠ here := fun same => away (same ▸ (reach_put_file notDir).mpr reached)
    rw [at?_put t' here l _ (ne_root_of_at? notDir), if_neg elsewhere]
    exact spares.entries l not_false
  · intro plt member bytes found
    exact (same plt member).trans (spares.found plt member bytes found)
  · intro plt member bytes found
    obtain ⟨l, reachedPlt, entry⟩ := spares.there plt member bytes ((same plt member).symm.trans found)
    exact ⟨l, (reach_put_file notDir).mpr reachedPlt, entry⟩
  · intro formed plt member plain
    exact (same plt member).trans (spares.plain formed plt member plain)

/-! ## How a run fails early -/

/-- A run fails for this reason, having asked nothing, counted nothing and recorded no phase. -/
structure FailsEarly (j : Job σ) (s : Session σ) (reason : ToolError) (s' : Session σ) : Prop where
  outcome : j.run s = .ok {
    status := .failed
    warnings := s.total
    output := some j.keeper.output
    error := some (.tool reason)
    phases := s.phases } s'
  requests : s'.requests = s.requests
  backend : s'.backend = s.backend

/-- A run whose steps stop, with nothing done but to the tree and the log, fails early. -/
theorem failsEarly_of_steps {reason : ToolError} {log : List LogRecord}
    (stopped : j.steps (j.opened s) = .error (.tool reason) { j.opened s with tree := t, log := log }) :
    ∃ s', j.FailsEarly s reason s' ∧ s'.tree = t := by
  obtain ⟨s', ⟨path, log', rfl⟩, outcome⟩ := run_of_stopped stopped rfl
  exact ⟨_, ⟨outcome, rfl, rfl⟩, rfl⟩

end Job

/-! ## Names that are not found -/

namespace Manifest

variable {r : Registry} {cwd : String} {t : FileTree} {name : String}

/-- The first name that is not found decides, wherever the names before it are passed over or found. -/
theorem filesOf_of_lost {before after passed : List String}
    (known : ∀ earlier ∈ before, earlier ∈ passed ∨ ∃ files, appFiles r cwd t earlier = .ok files)
    (sought : name ∉ passed) (lost : r.locate cwd t name = .ok none) :
    filesOf r cwd t passed ((before ++ name :: after).map .str) = .error (.tool (.unknownApplication name)) :=
  filesOf_error_iff.mpr ⟨before, name, after, rfl, known, sought, appFiles_of_lost lost⟩

end Manifest

/-- Resolving that fails in the tree fails in the session, which only logs. -/
theorem Resolver.resolve_fails {r : Resolver} {names : Json} {items : List Json} {apps : List ProjectApp}
    {s : Session σ} {e : Failure} (listed : names.elements = .ok items)
    (failed : Manifest.resolve (r.registry s) r.cwd s.tree items apps = .error e) :
    (r.resolve names apps).Ensures s (fun _ _ => False) fun e' s' => e' = e ∧ s.LoggedSince s' := by
  unfold Resolver.resolve
  rw [Act.ensures_bind, Act.ensures_info, Resolver.ensures_look]
  have looked : (do Manifest.resolve (r.registry s) r.cwd s.tree (← names.elements) apps :
      Except Failure FileSet) = .error e := by
    rw [listed]
    exact failed
  constructor
  · intro files resolved
    exact nomatch looked.symm.trans resolved
  · intro e' failed'
    exact ⟨Except.error.inj (failed'.symm.trans looked), s.loggedSince_info _⟩

namespace Job

variable {j : Job σ} {s s₁ : Session σ}

/-- A project PLT whose files do not all resolve is not brought up to date. -/
theorem updateProject_fails {names : List Json} {e : Failure} (updates : j.settings.updatePlt.isSet = true)
    (asked : j.requiredApps = .ok names)
    (failed : Manifest.resolve (j.resolver.registry s) j.keeper.cwd s.tree names j.project.apps = .error e) :
    ∃ s', j.updateProject s = .error e s' ∧ s.LoggedSince s' := by
  have ends : j.updateProject.Ensures s (fun _ _ => False) fun e' s' => e' = e ∧ s.LoggedSince s' := by
    unfold updateProject
    refine Act.ensures_ite.mpr ⟨fun off => by simp [updates] at off, fun _ => ?_⟩
    rw [Act.ensures_bind, Act.ensures_info]
    let announced : Session σ := { s with log := s.log ++ [⟨.info, "Updating plt..."⟩] }
    have resolving : j.requiredFiles.Ensures announced (fun _ _ => False)
        fun e' s' => e' = e ∧ announced.LoggedSince s' := by
      unfold requiredFiles
      refine Act.ensures_bind.mpr (Act.ensures_lift.mpr ⟨fun items given => ?_, fun _ refused => ?_⟩)
      · cases asked.symm.trans given
        exact Resolver.resolve_fails (s := announced) rfl failed
      · exact nomatch asked.symm.trans refused
    refine Act.Ensures.bind resolving ?_ fun _ _ never => never.elim
    rintro e' s' ⟨rfl, records, rfl⟩
    exact ⟨rfl, [⟨.info, "Updating plt..."⟩] ++ records, by simp [announced]⟩
  cases ran : j.updateProject s with
  | ok n s' => exact (ends.of_ok ran).elim
  | error e' s' =>
    obtain ⟨rfl, logged⟩ := ends.of_error ran
    exact ⟨s', rfl, logged⟩

/-! ## Early failures -/

/-- Before anything else: without a warnings file a run fails with the reason why there is none. -/
theorem fails_unbegun (usable : j.keeper.output.Usable) (unbegun : ∀ s₁, ¬ j.Begins s s₁) :
    ∃ cause s', j.FailsEarly s (.outputFailed j.keeper.output (.system cause)) s' ∧
      j.Spares (fun _ => False) s.tree s'.tree := by
  cases begun : j.keeper.beginReport (j.opened s) with
  | ok output s₁ => exact absurd ⟨output, begun⟩ (unbegun s₁)
  | error e s₁ =>
    obtain ⟨unreported, rfl⟩ := Keeper.beginReport_unreported begun
    obtain ⟨cause, rfl⟩ := unreported.of_usable usable nofun
    let made := (s.tree.makeDirs j.keeper.cwd j.keeper.output.parent).2
    have stopped : j.steps (j.opened s) =
        .error (.tool (j.keeper.outputFailed cause)) { j.opened s with tree := made } := by
      unfold steps
      simp only [bind, EStateM.bind, begun]
      rfl
    obtain ⟨s', fails, same⟩ := failsEarly_of_steps stopped
    exact ⟨cause, s', fails, same ▸ spares_of_grows (makeDirs_grows _ _ _)⟩

/-- With it, a run fails for the first name that is not found. -/
theorem fails_of_lost {before after : List String} {name : String}
    (updates : j.settings.updatePlt.isSet = true)
    (apart : ∀ plt ∈ j.plts, ∀ t : FileTree, ¬ t.SameFile j.keeper.cwd plt j.keeper.output)
    (begun : j.Begins s s₁) (asked : j.requiredApps = .ok ((before ++ name :: after).map .str))
    (known : ∀ earlier ∈ before, earlier ∈ j.project.apps.map (·.name) ∨
      ∃ files, Manifest.appFiles (j.resolver.registry s₁) j.keeper.cwd s₁.tree earlier = .ok files)
    (foreign : name ∉ j.project.apps.map (·.name))
    (lost : (j.resolver.registry s₁).locate j.keeper.cwd s₁.tree name = .ok none) :
    ∃ s', j.FailsEarly s (.unknownApplication name) s' ∧
      j.Spares (fun l => s'.tree.reach j.keeper.cwd j.keeper.output = .ok l) s.tree s'.tree ∧
      s'.tree.bytesAt? j.keeper.cwd j.keeper.output = some [] := by
  obtain ⟨output, begun⟩ := begun
  have unresolved : Manifest.resolve (j.resolver.registry s₁) j.keeper.cwd s₁.tree
      ((before ++ name :: after).map .str) j.project.apps = .error (.tool (.unknownApplication name)) := by
    rw [Manifest.resolve, Manifest.filesOf_of_lost known foreign lost]
    rfl
  obtain ⟨_, stopped, records, rfl⟩ := updateProject_fails updates asked unresolved
  obtain ⟨-, -, -, cleared⟩ := Keeper.beginReport_clears begun
  have begins : j.keeper.beginReport.Ensures (j.opened s)
      (fun _ s' => ∃ t, s' = { j.opened s with tree := t } ∧
        (s.tree.makeDirs j.keeper.cwd j.keeper.output.parent).2.write j.keeper.cwd j.keeper.output [] = .ok t)
      fun _ _ => True :=
    Keeper.ensures_beginReport (fun t written => ⟨t, rfl, written⟩) fun _ => trivial
  obtain ⟨t, rfl, written⟩ := begins.of_ok begun
  have stopped : j.steps (j.opened s) = .error (.tool (.unknownApplication name))
      { j.opened s with tree := t, log := (j.opened s).log ++ records } := by
    rw [steps_of_begun begun]
    unfold work
    simp only [bind, EStateM.bind, stopped]
  obtain ⟨s', fails, rfl⟩ := failsEarly_of_steps stopped
  exact ⟨s', fails, (spares_of_grows (makeDirs_grows _ _ _)).write written apart, cleared⟩

/-- A run that is to bring the project PLT up to date and cannot begin its report, or does not find an
application that is required, fails before it has asked the backend anything, and names the reason: why the
warnings file was refused, or the first name that is not found, wherever in the order of base applications,
further ones and dependencies it stands. PLTs stay as they are. -/
theorem early_failure {host : Host} {backend : Backend σ} {settings : Settings} {project : Project}
    {runtime : OtpRuntime} (made : Job.of host backend settings project runtime = .ok j)
    (updates : settings.updatePlt.isSet = true) (usable : j.keeper.output.Usable) (s : Session σ) :
    ((∀ s₁, ¬ j.Begins s s₁) →
      ∃ cause s', j.FailsEarly s (.outputFailed j.keeper.output (.system cause)) s' ∧
        j.Spares (fun _ => False) s.tree s'.tree) ∧
    ∀ s₁ base extra before name after, j.Begins s s₁ →
      settings.baseApps.elements = .ok (base.map .str) → settings.extraApps.elements = .ok (extra.map .str) →
      base ++ extra ++ project.dependencyApps = before ++ name :: after →
      (∀ earlier ∈ before, earlier ∈ project.apps.map (·.name) ∨
        ∃ files, Manifest.appFiles (j.resolver.registry s₁) host.cwd s₁.tree earlier = .ok files) →
      name ∉ project.apps.map (·.name) →
      (j.resolver.registry s₁).locate host.cwd s₁.tree name = .ok none →
      ∃ s', j.FailsEarly s (.unknownApplication name) s' ∧
        j.Spares (fun l => s'.tree.reach host.cwd j.keeper.output = .ok l) s.tree s'.tree ∧
        s'.tree.bytesAt? host.cwd j.keeper.output = some [] := by
  have apart := Job.apart_of made
  obtain ⟨-, -, -, -, directory, rfl, rfl⟩ := Job.of_eq_ok made
  rw [← directory]
  refine ⟨fails_unbegun usable, ?_⟩
  intro s₁ base extra before name after begun baseApps extraApps order known foreign lost
  have asked : j.requiredApps = .ok ((before ++ name :: after).map .str) := by
    rw [requiredApps, baseApps, extraApps, ← order]
    simp [bind, Except.bind, pure, Except.pure]
  exact fails_of_lost updates apart begun asked known foreign lost

/-! ## A run for an application that is not there -/

/-- A run whose second base application is not there, for a build in this directory. -/
def lacking (baseDir : String) : Except Failure (Job Nat) :=
  Job.of Exact.host (Exact.backend "/w" (fun _ => none) [])
    { Exact.settings "/w/s" with
      baseApps := .arr [.str "dep", .str "missing"]
      baseDir := .path (Path.parse baseDir) } Exact.project ⟨"26", Path.parse "/otp"⟩

/-- A session with one more file. -/
def sessionWith (l : Location) (bytes : List UInt8) : Session Nat :=
  Exact.sessionIn ⟨Exact.tree.entries ++ [(l, .file bytes)]⟩

/-- What a run for it meets after its report has begun: a usable name for the warnings file, the first base
application, and no directory for the second one. -/
def meetsLack (j : Job Nat) (s₁ : Session Nat) : Bool :=
  j.keeper.output.Usable &&
    (match Manifest.appFiles (j.resolver.registry s₁) "/w" s₁.tree "dep" with
      | .ok _ => true
      | .error _ => false) &&
    (match (j.resolver.registry s₁).locate "/w" s₁.tree "missing" with
      | .ok none => true
      | _ => false)

theorem of_meetsLack {j : Job Nat} {s₁ : Session Nat} (meets : meetsLack j s₁ = true) : j.keeper.output.Usable ∧
    (∀ earlier ∈ ["dep"], earlier ∈ Exact.project.apps.map (·.name) ∨
      ∃ files, Manifest.appFiles (j.resolver.registry s₁) Exact.host.cwd s₁.tree earlier = .ok files) ∧
    (j.resolver.registry s₁).locate Exact.host.cwd s₁.tree "missing" = .ok none := by
  simp only [meetsLack, Bool.and_eq_true, decide_eq_true_eq] at meets
  obtain ⟨⟨usable, first⟩, second⟩ := meets
  refine ⟨usable, fun earlier member => .inr ?_, ?_⟩
  · rw [List.mem_singleton.mp member]
    split at first
    · rename_i files found
      exact ⟨files, found⟩
    · cases first
  · split at second
    · rename_i lost
      exact lost
    · cases second

/-- Without a directory for the warnings file the run fails for that, and with one for the application. -/
theorem early_failure_of_missing : ∃ j, lacking "/w/b" = .ok j ∧
    (∃ cause s', j.FailsEarly (sessionWith ["w", "b"] []) (.outputFailed j.keeper.output (.system cause)) s') ∧
    ∃ s', j.FailsEarly Exact.session (.unknownApplication "missing") s' := by
  have checked : checkRun (lacking "/w/b") Exact.session (fun j _ _ =>
      !j.keeper.beginReport.check (j.opened (sessionWith ["w", "b"] [])) (fun _ _ => true) &&
        j.keeper.beginReport.check (j.opened Exact.session) fun _ s₁ => meetsLack j s₁) = true := by
    decide +kernel
  obtain ⟨j, _, _, made, _, checked⟩ := of_checkRun checked
  obtain ⟨refused, checked⟩ := Bool.and_eq_true_iff.mp checked
  obtain ⟨output, s₁, begun, meets⟩ := Act.of_check checked
  obtain ⟨usable, known, lost⟩ := of_meetsLack meets
  have unbegun : ∀ s₁, ¬ j.Begins (sessionWith ["w", "b"] []) s₁ := by
    rintro s₁ ⟨output, begun⟩
    simp [Act.check, begun] at refused
  obtain ⟨cause, s', fails, -⟩ := (early_failure made rfl usable (sessionWith ["w", "b"] [])).1 unbegun
  obtain ⟨s'', fails', -⟩ := (early_failure made rfl usable Exact.session).2 s₁ ["dep", "missing"] [] ["dep"]
    "missing" ["dep"] ⟨output, begun⟩ rfl rfl rfl known (by decide) lost
  exact ⟨j, made, ⟨cause, s', fails⟩, s'', fails'⟩

/-- The path of the project PLT goes up from a directory that is not there yet, so no PLT is found. The
warnings file's directory is made, and now one is. -/
theorem early_failure_counterexample :
    ¬ ∀ (host : Host) (backend : Backend Nat) (settings : Settings) (project : Project) (runtime : OtpRuntime)
      (j : Job Nat) (s s₁ : Session Nat) (base extra before after : List String) (name : String),
      Job.of host backend settings project runtime = .ok j → settings.updatePlt.isSet = true →
      j.keeper.output.Usable → s.tree.WellFormed → j.Begins s s₁ →
      settings.baseApps.elements = .ok (base.map .str) → settings.extraApps.elements = .ok (extra.map .str) →
      base ++ extra ++ project.dependencyApps = before ++ name :: after →
      (∀ earlier ∈ before, earlier ∈ project.apps.map (·.name) ∨
        ∃ files, Manifest.appFiles (j.resolver.registry s₁) host.cwd s₁.tree earlier = .ok files) →
      name ∉ project.apps.map (·.name) →
      (j.resolver.registry s₁).locate host.cwd s₁.tree name = .ok none →
      ∃ o s', j.run s = .ok o s' ∧
        ∀ plt ∈ j.plts, s'.tree.bytesAt? host.cwd plt = s.tree.bytesAt? host.cwd plt := by
  intro claim
  let before := sessionWith ["w", "rebar3_26_plt"] (Exact.encode ["/old.beam"])
  have checked : checkRun (lacking "/w/new/..") before (fun j _ s' =>
      s'.tree.bytesAt? "/w" j.plt ≠ before.tree.bytesAt? "/w" j.plt &&
        j.keeper.beginReport.check (j.opened before) fun _ s₁ => meetsLack j s₁) = true := by
    decide +kernel
  obtain ⟨j, o, s', made, ran, checked⟩ := of_checkRun checked
  rw [Bool.and_eq_true, decide_eq_true_iff] at checked
  obtain ⟨different, checked⟩ := checked
  obtain ⟨output, s₁, begun, meets⟩ := Act.of_check checked
  obtain ⟨usable, known, lost⟩ := of_meetsLack meets
  have formed : before.tree.WellFormed := FileTree.wellFormed_of_entries (by decide)
  obtain ⟨o', s'', ran', same⟩ := claim _ _ _ _ _ j before s₁ ["dep", "missing"] [] ["dep"] ["dep"] "missing" made
    rfl usable formed ⟨output, begun⟩ rfl rfl rfl known (by decide) lost
  cases ran.symm.trans ran'
  exact different (same j.plt j.plt_mem)

end Job

end PltKeeper
