import PltKeeper.Proofs.Backend.Exact
import PltKeeper.Proofs.Run.Ends
import PltKeeper.Proofs.SideBySide
import PltKeeper.Proofs.Traversal

/-! In what order applications are declared does not matter, nor how often. Which files are resolved depends on
which names there are and on which applications the project builds; where all of them are found, two
configurations that declare the same thus resolve the same sets. Nothing else in a run looks at the
declarations, so the two runs are one and the same. -/
namespace PltKeeper

variable {σ α β : Type}

/-! ## Declarations that say the same -/

/-- Two lists of the same names. -/
def SameNames (listed listed' : Json) : Prop :=
  ∃ names names' : List String, listed.elements = .ok (names.map .str) ∧ listed'.elements = .ok (names'.map .str) ∧
    ∀ name, name ∈ names ↔ name ∈ names'

/-- Two declarations of one application, which depends on the same others. -/
structure ProjectApp.Alike (app app' : ProjectApp) : Prop where
  name : app'.name = app.name
  ebin : app'.ebin = app.ebin
  applications : ∀ name, name ∈ app.applications ↔ name ∈ app'.applications

/-- The same applications in another order. -/
def Rearranged (apps apps' : List ProjectApp) : Prop :=
  ∃ between, apps.Perm between ∧ List.Forall₂ ProjectApp.Alike between apps'

section
variable {apps apps' : List ProjectApp} (rearranged : Rearranged apps apps')
include rearranged

/-- Every application is declared on the other side, too. -/
theorem Rearranged.there {app : ProjectApp} (member : app ∈ apps) : ∃ app' ∈ apps', app.Alike app' := by
  obtain ⟨between, perm, alike⟩ := rearranged
  exact (mem_of_forall₂ alike).1 app (perm.mem_iff.mp member)

theorem Rearranged.back {app' : ProjectApp} (member : app' ∈ apps') : ∃ app ∈ apps, app.Alike app' := by
  obtain ⟨between, perm, alike⟩ := rearranged
  obtain ⟨app, inBetween, same⟩ := (mem_of_forall₂ alike).2 app' member
  exact ⟨app, perm.mem_iff.mpr inBetween, same⟩

theorem Rearranged.names (name : String) : name ∈ apps.map (·.name) ↔ name ∈ apps'.map (·.name) := by
  simp only [List.mem_map]
  constructor
  · rintro ⟨app, member, rfl⟩
    obtain ⟨app', member', alike⟩ := rearranged.there member
    exact ⟨app', member', alike.name⟩
  · rintro ⟨app', member', rfl⟩
    obtain ⟨app, member, alike⟩ := rearranged.back member'
    exact ⟨app, member, alike.name.symm⟩

theorem Rearranged.dependencies (name : String) :
    name ∈ apps.flatMap (·.applications) ↔ name ∈ apps'.flatMap (·.applications) := by
  simp only [List.mem_flatMap]
  constructor
  · rintro ⟨app, member, depends⟩
    obtain ⟨app', member', alike⟩ := rearranged.there member
    exact ⟨app', member', (alike.applications name).mp depends⟩
  · rintro ⟨app', member', depends⟩
    obtain ⟨app, member, alike⟩ := rearranged.back member'
    exact ⟨app, member, (alike.applications name).mpr depends⟩

end

/-! ## Files of applications -/

namespace Manifest

variable {cwd : String} {t : FileTree}

/-- The own files of applications depend on which ones there are. -/
theorem projectFiles_eq_of_rearranged {apps apps' : List ProjectApp} {files : FileSet}
    (rearranged : Rearranged apps apps') (resolved : projectFiles cwd t apps = .ok files) :
    projectFiles cwd t apps' = .ok files := by
  let own := fun app : ProjectApp => (do
    if ← t.isDir cwd app.ebin then objectFiles cwd t app.ebin
    else .error (.tool (.unknownApplication app.name)) : Except Failure (List String))
  have alike : ∀ {app app' : ProjectApp}, app.Alike app' → own app' = own app := by
    intro app app' alike
    simp only [own, alike.name, alike.ebin]
  have whole : ∀ apps, projectFiles cwd t apps = (do
      let files ← apps.mapM own
      return FileSet.of cwd files.flatten : Except Failure FileSet) := fun _ => rfl
  rw [whole] at resolved ⊢
  cases all : apps.mapM own with
  | error e => simp [all, bind, Except.bind] at resolved
  | ok parts =>
    have each := mapM_ok_iff.mp ⟨parts, all⟩
    obtain ⟨parts', all'⟩ : ∃ parts', apps'.mapM own = .ok parts' := by
      refine mapM_ok_iff.mpr fun app' member' => ?_
      obtain ⟨app, member, same⟩ := rearranged.back member'
      obtain ⟨part, found⟩ := each app member
      exact ⟨part, (alike same).trans found⟩
    simp only [all, all', bind, Except.bind, pure, Except.pure, Except.ok.injEq] at resolved ⊢
    subst files
    have sameParts : ∀ part, part ∈ parts' ↔ part ∈ parts := by
      intro part
      constructor
      · intro member
        obtain ⟨app', inApps', found⟩ := mem_of_mapM all' member
        obtain ⟨app, inApps, same⟩ := rearranged.back inApps'
        exact mem_mapM all inApps ((alike same).symm.trans found)
      · intro member
        obtain ⟨app, inApps, found⟩ := mem_of_mapM all member
        obtain ⟨app', inApps', same⟩ := rearranged.there inApps
        exact mem_mapM all' inApps' ((alike same).trans found)
    exact FileSet.ext fun file => by simp only [FileSet.mem_of, List.mem_flatten, sameParts]

end Manifest

/-! ## One run -/

/-- Two sequences go on alike from a session if their first actions end alike and what follows goes on alike. -/
theorem Act.bind_eq_of_eq {act act' : Act σ α} {next next' : α → Act σ β} {s : Session σ} (first : act' s = act s)
    (second : ∀ a s', act s = .ok a s' → next' a s' = next a s') : (act' >>= next') s = (act >>= next) s := by
  cases ran : act s with
  | ok a s' => rw [bind_of_ok ran, bind_of_ok (first.trans ran), second a s' ran]
  | error e s' => rw [bind_of_error ran, bind_of_error (first.trans ran)]

/-- What the tree and the search path decide alike is looked up alike. -/
theorem Resolver.look_eq_of_ok {r : Resolver} {f f' : Registry → FileTree → Except Failure α} {s : Session σ} {a : α}
    (found : f (r.registry s) s.tree = .ok a) (same : f' (r.registry s) s.tree = .ok a) :
    (r.look f' : Act σ α) s = r.look f s := by
  unfold Resolver.look
  rw [found, same]

namespace Job

variable {j j' : Job σ} {s : Session σ}

/-- Two runs that differ in the order of their declarations only. -/
structure Reordered (j j' : Job σ) : Prop where
  keeper : j'.keeper = j.keeper
  plt : j'.plt = j.plt
  basePlt : j'.basePlt = j.basePlt
  libRoot : j'.libRoot = j.libRoot
  updating : j'.settings.updatePlt = j.settings.updatePlt
  typing : j'.settings.succTypings = j.settings.succTypings
  codePaths : j'.project.codePaths = j.project.codePaths
  baseApps : SameNames j.settings.baseApps j'.settings.baseApps
  extraApps : SameNames j.settings.extraApps j'.settings.extraApps
  apps : Rearranged j.project.apps j'.project.apps

/-- Wherever a run resolves files, it finds them. -/
structure Resolvable (j : Job σ) (s : Session σ) : Prop where
  required : j.settings.updatePlt.isSet = true → ∀ s₁, j.Begins s s₁ → ∃ files, j.requiredFiles.Yields s₁ files
  base : j.settings.updatePlt.isSet = true → ∀ s₁ s₂ s₃, j.Begins s s₁ → s₁.LoggedSince s₂ →
    j.keeper.read j.plt s₂ = .ok none s₃ → ∃ files, j.baseFiles.Yields s₃ files
  own : j.settings.succTypings.isSet = true → ∀ s₁ n s₂, j.Begins s s₁ → j.updateProject s₁ = .ok n s₂ →
    ∃ files, j.ownFiles.Yields s₂ files

section
variable (reordered : j.Reordered j')
include reordered

theorem Reordered.resolver : j'.resolver = j.resolver := by
  rw [Job.resolver, Job.resolver, reordered.keeper, reordered.libRoot]

/-- Names that resolve for the one run resolve for the other, to the same files. -/
theorem Reordered.resolve {listed listed' : Json} (names : SameNames listed listed') {files : FileSet}
    (yields : (j.resolver.resolve listed j.project.apps).Yields s files) :
    j'.resolver.resolve listed' j'.project.apps s = j.resolver.resolve listed j.project.apps s := by
  obtain ⟨texts, texts', given, given', same⟩ := names
  obtain ⟨s', ran⟩ := yields
  obtain ⟨-, items, listed, resolved⟩ := (j.resolver.resolve_ends _ j.project.apps s).of_ok ran
  cases given.symm.trans listed
  have resolved' := Manifest.resolve_eq_of_mem_iff same reordered.apps.names resolved
  rw [reordered.resolver]
  unfold Resolver.resolve
  refine Act.bind_eq_of_eq rfl fun _ s₁ logged => ?_
  cases logged
  refine Resolver.look_eq_of_ok (a := files) ?_ ?_
  · rw [given]
    exact resolved
  · rw [given']
    exact resolved'

theorem Reordered.requiredFiles {files : FileSet} (yields : j.requiredFiles.Yields s files) :
    j'.requiredFiles s = j.requiredFiles s := by
  obtain ⟨base, base', baseApps, baseApps', sameBase⟩ := reordered.baseApps
  obtain ⟨extra, extra', extraApps, extraApps', sameExtra⟩ := reordered.extraApps
  have asked : j.requiredApps = .ok ((base ++ extra ++ j.project.dependencyApps).map .str) :=
    requiredApps_eq_ok_iff.mpr ⟨_, baseApps, _, extraApps, by simp only [List.map_append]⟩
  have asked' : j'.requiredApps = .ok ((base' ++ extra' ++ j'.project.dependencyApps).map .str) :=
    requiredApps_eq_ok_iff.mpr ⟨_, baseApps', _, extraApps', by simp only [List.map_append]⟩
  have names : SameNames (.arr ((base ++ extra ++ j.project.dependencyApps).map .str))
      (.arr ((base' ++ extra' ++ j'.project.dependencyApps).map .str)) := by
    refine ⟨_, _, rfl, rfl, fun name => ?_⟩
    simp only [List.mem_append, sameBase, sameExtra, Project.dependencyApps, reordered.apps.dependencies]
  have resolving : ∀ {i : Job σ} {names : List Json}, i.requiredApps = .ok names →
      i.requiredFiles = i.resolver.resolve (.arr names) i.project.apps := by
    intro i names asked
    unfold Job.requiredFiles
    rw [asked]
    rfl
  rw [resolving asked, resolving asked'] at *
  exact reordered.resolve names yields

theorem Reordered.ownFiles {files : FileSet} (yields : j.ownFiles.Yields s files) :
    j'.ownFiles s = j.ownFiles s := by
  obtain ⟨s', ran⟩ := yields
  have resolved := ((j.ownFiles_ends s).of_ok ran).2
  have resolved' := Manifest.projectFiles_eq_of_rearranged reordered.apps resolved
  unfold Job.ownFiles Resolver.ownFiles
  rw [reordered.resolver]
  refine Act.bind_eq_of_eq rfl fun _ s₁ logged => ?_
  cases logged
  exact Resolver.look_eq_of_ok resolved resolved'

/-- A project PLT is made in the same way. -/
theorem Reordered.makeProjectPlt (files : FileSet) {base : FileSet} (yields : j.baseFiles.Yields s base) :
    j'.makeProjectPlt files s = j.makeProjectPlt files s := by
  have updateBase : j'.updateBase = j.updateBase := by
    funext files
    unfold Job.updateBase
    rw [reordered.keeper, reordered.basePlt]
  have copyBase : j'.copyBase = j.copyBase := by
    unfold Job.copyBase
    rw [reordered.keeper, reordered.basePlt, reordered.plt]
  unfold Job.makeProjectPlt
  rw [updateBase, copyBase, reordered.keeper, reordered.plt, reordered.basePlt]
  refine Act.bind_eq_of_eq rfl fun _ s₁ logged => ?_
  cases logged
  refine Act.bind_eq_of_eq ?_ fun _ _ _ => rfl
  exact reordered.resolve reordered.baseApps (Resolver.yields_of_same yields rfl rfl)

theorem Reordered.updateProject (resolvable : j.Resolvable s) {s₁ : Session σ} (begun : j.Begins s s₁) :
    j'.updateProject s₁ = j.updateProject s₁ := by
  unfold Job.updateProject
  rw [reordered.updating]
  by_cases updating : j.settings.updatePlt.isSet = true
  · obtain ⟨files, yields⟩ := resolvable.required updating s₁ begun
    simp only [updating, Bool.not_true, Bool.false_eq_true, if_false]
    refine Act.bind_eq_of_eq rfl fun _ s₂ logged => ?_
    cases logged
    have yields : j.requiredFiles.Yields { s₁ with log := s₁.log ++ [⟨.info, "Updating plt..."⟩] } files :=
      j.requiredFiles_yields_of_same yields rfl rfl
    refine Act.bind_eq_of_eq (reordered.requiredFiles yields) fun files s₃ resolved => ?_
    have logged : s₁.LoggedSince s₃ := by
      obtain ⟨records, rfl⟩ := ((j.requiredFiles_ends _).of_ok resolved).1
      exact ⟨[⟨.info, "Updating plt..."⟩] ++ records, by simp⟩
    rw [reordered.keeper, reordered.plt]
    refine Act.bind_eq_of_eq rfl fun answer s₄ asked => ?_
    cases answer with
    | none =>
      obtain ⟨base, yields⟩ := resolvable.base updating s₁ s₃ s₄ begun logged asked
      exact reordered.makeProjectPlt files yields
    | some held => rfl
  · simp only [updating, Bool.not_false, if_true]

theorem Reordered.successTyping (own : j.settings.succTypings.isSet = true → ∃ files, j.ownFiles.Yields s files) :
    j'.successTyping s = j.successTyping s := by
  unfold Job.successTyping
  rw [reordered.typing, reordered.keeper, reordered.plt]
  by_cases typing : j.settings.succTypings.isSet = true
  · obtain ⟨files, yields⟩ := own typing
    simp only [typing, Bool.not_true, Bool.false_eq_true, if_false]
    refine Act.bind_eq_of_eq rfl fun _ s₁ logged => ?_
    cases logged
    refine Act.bind_eq_of_eq ?_ fun _ _ _ => rfl
    exact reordered.ownFiles (j.ownFiles_yields_of_same yields rfl)
  · simp only [typing, Bool.not_false, if_true]

theorem Reordered.steps (resolvable : j.Resolvable s) : j'.steps (j.opened s) = j.steps (j.opened s) := by
  unfold Job.steps
  rw [reordered.keeper]
  refine Act.bind_eq_of_eq rfl fun output s₁ begun => ?_
  refine Act.bind_eq_of_eq (reordered.updateProject resolvable ⟨output, begun⟩) fun n s₂ updated => ?_
  refine Act.bind_eq_of_eq (reordered.successTyping fun typing => ?_) fun _ _ _ => rfl
  exact resolvable.own typing s₁ n s₂ ⟨output, begun⟩ updated

/-- The outcome of the steps decides the run. -/
theorem Reordered.run (resolvable : j.Resolvable s) : j'.run s = j.run s := by
  have opened : j'.opened s = j.opened s := by
    rw [Job.opened, Job.opened, reordered.codePaths]
  have steps := reordered.steps resolvable
  rw [← opened] at steps
  have guarded : j'.guarded (j'.opened s) = j.guarded (j.opened s) := by
    unfold Job.guarded
    rw [steps, opened]
    unfold stopping?
    rw [reordered.keeper]
  cases ended : j.guarded (j.opened s) with
  | ok result s' =>
    rw [j.run_of_result ended, j'.run_of_result (guarded.trans ended)]
    unfold Job.failed Job.completed
    rw [reordered.keeper]
    cases result <;> rfl
  | error e s' => rw [j.run_of_failure ended, j'.run_of_failure (guarded.trans ended)]

end

/-- Where questions change nothing, the base PLT's names resolve wherever all those that are required do. -/
theorem Resolvable.of_keeps {format : PltFormat} (keeps : j.keeper.Keeps format j.plts)
    (required : j.settings.updatePlt.isSet = true → ∀ s₁, j.Begins s s₁ → ∃ files, j.requiredFiles.Yields s₁ files)
    (own : j.settings.succTypings.isSet = true → ∀ s₁ n s₂, j.Begins s s₁ → j.updateProject s₁ = .ok n s₂ →
      ∃ files, j.ownFiles.Yields s₂ files) : j.Resolvable s where
  required := required
  base := by
    rintro updating s₁ _ s₃ begun ⟨records, rfl⟩ asked
    obtain ⟨files, yields⟩ := required updating s₁ begun
    obtain ⟨base, -, resolves⟩ := base_of_required yields
    obtain ⟨follows, sameTree, -⟩ := (Keeper.read_ends keeps j.plt_mem _).of_ok asked
    exact ⟨base, resolves s₃ sameTree follows.searchPath⟩
  own := own

/-- Two configurations that list the same names, however ordered and however often, and declare the same
applications in any order make the same run: from a session in which the run finds what it resolves, the other
one ends in the same way, with the same requests in the same order, the same PLTs and the same warnings file. -/
theorem run_of_declarations {host : Host} {backend : Backend σ} {settings : Settings} {project : Project}
    {runtime : OtpRuntime} (made : Job.of host backend settings project runtime = .ok j) {base extra : Json}
    {apps : List ProjectApp} (sameBase : SameNames settings.baseApps base)
    (sameExtra : SameNames settings.extraApps extra) (rearranged : Rearranged project.apps apps) :
    ∃ j', Job.of host backend { settings with baseApps := base, extraApps := extra }
        { project with apps := apps } runtime = .ok j' ∧
      ∀ s, j.Resolvable s → j'.run s = j.run s := by
  obtain ⟨plt, basePlt, directory, warnings, placed, basePlaced, based, listed, rfl⟩ := of_eq_ok_iff.mp made
  refine ⟨_, of_eq_ok_iff.mpr ⟨plt, basePlt, directory, warnings, placed, basePlaced, based, listed, rfl⟩, ?_⟩
  intro s resolvable
  refine Reordered.run ?_ resolvable
  exact ⟨rfl, rfl, rfl, rfl, rfl, rfl, rfl, sameBase, sameExtra, rearranged⟩

/-- A further application that is listed twice, and two applications of the project the other way round. -/
theorem run_of_swapped_applications : ∃ j j' o s',
    Job.of Exact.host (Exact.backend "/w" (fun _ => none) [])
      { Exact.settings "/w/s" with extraApps := .arr [.str "dep"] }
      ⟨[⟨"app", Path.parse "/w/a", ["dep"]⟩, ⟨"own", Path.parse "/w/a", []⟩], [Path.parse "/w/dep/ebin"]⟩
      ⟨"26", Path.parse "/otp"⟩ = .ok j ∧
    Job.of Exact.host (Exact.backend "/w" (fun _ => none) [])
      { Exact.settings "/w/s" with extraApps := .arr [.str "dep", .str "dep"] }
      ⟨[⟨"own", Path.parse "/w/a", []⟩, ⟨"app", Path.parse "/w/a", ["dep", "dep"]⟩], [Path.parse "/w/dep/ebin"]⟩
      ⟨"26", Path.parse "/otp"⟩ = .ok j' ∧
    j.run Exact.session = .ok o s' ∧ j'.run Exact.session = .ok o s' ∧ o.status = .success ∧
    s'.requests.length = 5 := by
  have checked : checkRun (Job.of Exact.host (Exact.backend "/w" (fun _ => none) [])
      { Exact.settings "/w/s" with extraApps := .arr [.str "dep"] }
      ⟨[⟨"app", Path.parse "/w/a", ["dep"]⟩, ⟨"own", Path.parse "/w/a", []⟩], [Path.parse "/w/dep/ebin"]⟩
      ⟨"26", Path.parse "/otp"⟩) Exact.session (fun j o s' => o.status = .success && s'.requests.length = 5 &&
        j.keeper.beginReport.check (j.opened Exact.session) fun _ begun =>
          (j.requiredFiles.check begun fun _ _ => true) && j.updateProject.check begun fun _ updated =>
            j.ownFiles.check updated fun _ _ => true) = true := by decide +kernel
  obtain ⟨j, o, s', made, ran, checked⟩ := of_checkRun checked
  simp only [Bool.and_eq_true, decide_eq_true_eq] at checked
  obtain ⟨⟨succeeded, five⟩, begins⟩ := checked
  obtain ⟨output, begun, begins, passed⟩ := Act.of_check begins
  rw [Bool.and_eq_true] at passed
  obtain ⟨files, rest, resolved, -⟩ := Act.of_check passed.1
  obtain ⟨n, updated, updates, typed⟩ := Act.of_check passed.2
  obtain ⟨own, after, resolvedOwn, -⟩ := Act.of_check typed
  have resolvable : j.Resolvable Exact.session := by
    have keeps := Job.keeps_of made Exact.rooted_host (Exact.setSemantics Exact.rooted_host)
    refine .of_keeps keeps ?_ ?_
    · rintro - s₁ ⟨_, again⟩
      cases begins.symm.trans again
      exact ⟨files, rest, resolved⟩
    · rintro - s₁ m s₂ ⟨_, again⟩ updated
      cases begins.symm.trans again
      cases updates.symm.trans updated
      exact ⟨own, after, resolvedOwn⟩
  have rearranged : Rearranged [⟨"app", Path.parse "/w/a", ["dep"]⟩, ⟨"own", Path.parse "/w/a", []⟩]
      [⟨"own", Path.parse "/w/a", []⟩, ⟨"app", Path.parse "/w/a", ["dep", "dep"]⟩] := by
    refine ⟨_, .swap _ _ _, .cons ⟨rfl, rfl, fun name => Iff.rfl⟩ (.cons ⟨rfl, rfl, fun name => ?_⟩ .nil)⟩
    simp
  have none : SameNames (.arr []) (.arr []) := ⟨[], [], rfl, rfl, fun name => Iff.rfl⟩
  have twice : SameNames (.arr [.str "dep"]) (.arr [.str "dep", .str "dep"]) :=
    ⟨["dep"], ["dep", "dep"], rfl, rfl, fun name => by simp⟩
  obtain ⟨j', made', same⟩ := run_of_declarations made none twice rearranged
  exact ⟨j, j', o, s', made, made', ran, (same _ resolvable).trans ran, succeeded, five⟩

end Job

end PltKeeper
