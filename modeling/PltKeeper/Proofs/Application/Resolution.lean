import PltKeeper.Proofs.Ending
import PltKeeper.Proofs.FileSet.Keys
import PltKeeper.Proofs.Traversal
import PltKeeper.Run.Job

/-! What a run resolves. Resolving reads the tree and the search path and adds to the log only. Names
resolve where each of them does, to the files of just these, and otherwise the first one that does not
decides the failure. The names of the base PLT stand before all others among those of the project PLT,
and a name that was resolved once is passed over later, so the files of the base PLT are the first ones
of the project PLT: they resolve wherever those do, and are among them. -/
namespace PltKeeper

variable {σ : Type} {s s' : Session σ}

/-- The second session is the first one but for what has been logged since. -/
def Session.LoggedSince (s s' : Session σ) : Prop :=
  ∃ records, s' = { s with log := s.log ++ records }

theorem Session.LoggedSince.refl (s : Session σ) : s.LoggedSince s := ⟨[], by simp⟩

theorem Session.LoggedSince.tree (logged : s.LoggedSince s') : s'.tree = s.tree := by
  obtain ⟨records, rfl⟩ := logged
  rfl

theorem Session.loggedSince_info (s : Session σ) (message : String) :
    s.LoggedSince { s with log := s.log ++ [⟨.info, message⟩] } := ⟨_, rfl⟩

/-! ## Files of names -/

namespace Manifest

variable {r : Registry} {cwd : String} {t : FileTree} {names names' passed passed' : List String} {e : Failure}

/-- The first of several names is passed over, or its files come first. -/
theorem filesOf_cons_ok_iff {value : Json} {rest : List Json} {texts : List String} :
    filesOf r cwd t passed (value :: rest) = .ok texts ↔
      ∃ name, nameOf value = .ok name ∧ (name ∈ passed ∧ filesOf r cwd t passed rest = .ok texts ∨
        name ∉ passed ∧ ∃ first others, appFiles r cwd t name = .ok first ∧
          filesOf r cwd t (name :: passed) rest = .ok others ∧ first ++ others = texts) := by
  rw [filesOf, bind_ok_iff]
  refine exists_congr fun name => and_congr_right fun _ => ?_
  by_cases seen : name ∈ passed
  · simp [seen]
  · simp [seen, bind_ok_iff, pure, Except.pure]

/-- Several names fail with the first one, if that is not passed over, or with the others. -/
theorem filesOf_cons_error_iff {name : String} {rest : List Json} :
    filesOf r cwd t passed (.str name :: rest) = .error e ↔
      name ∈ passed ∧ filesOf r cwd t passed rest = .error e ∨
        name ∉ passed ∧ (appFiles r cwd t name = .error e ∨ ∃ found, appFiles r cwd t name = .ok found ∧
          filesOf r cwd t (name :: passed) rest = .error e) := by
  rw [filesOf]
  by_cases seen : name ∈ passed
  · simp [nameOf, bind_error_iff, seen]
  · simp [nameOf, bind_error_iff, seen, pure, Except.pure]

/-- Passing over a name that was found makes no other name known. -/
theorem known_of_cons {first name : String} {found : List String} (here : appFiles r cwd t first = .ok found)
    (known : name ∈ first :: passed ∨ ∃ found, appFiles r cwd t name = .ok found) :
    name ∈ passed ∨ ∃ found, appFiles r cwd t name = .ok found := by
  rcases known with was | worked
  · rcases List.mem_cons.mp was with rfl | was
    · exact .inr ⟨found, here⟩
    · exact .inl was
  · exact .inr worked

/-- The first name that is neither passed over nor found decides how names fail to resolve. -/
theorem filesOf_error_iff : filesOf r cwd t passed (names.map .str) = .error e ↔
    ∃ before name after, names = before ++ name :: after ∧
      (∀ earlier ∈ before, earlier ∈ passed ∨ ∃ found, appFiles r cwd t earlier = .ok found) ∧
      name ∉ passed ∧ appFiles r cwd t name = .error e := by
  induction names generalizing passed with
  | nil => simp [filesOf]
  | cons first rest ih =>
    rw [List.map_cons, filesOf_cons_error_iff]
    simp only [ih]
    constructor
    · rintro (⟨seen, before, name, after, rfl, known, new, failed⟩ |
        ⟨new, failed | ⟨found, here, before, name, after, rfl, known, later, failed⟩⟩)
      · exact ⟨first :: before, name, after, rfl, List.forall_mem_cons.mpr ⟨.inl seen, known⟩, new, failed⟩
      · exact ⟨[], first, rest, rfl, nofun, new, failed⟩
      · have known := fun earlier member => known_of_cons here (known earlier member)
        exact ⟨first :: before, name, after, rfl, List.forall_mem_cons.mpr ⟨.inr ⟨found, here⟩, known⟩,
          fun was => later (List.mem_cons_of_mem first was), failed⟩
    · rintro ⟨before, name, after, split, known, new, failed⟩
      rcases List.cons_eq_append_iff.mp split with ⟨rfl, same⟩ | ⟨before, rfl, rfl⟩
      · cases same
        exact .inr ⟨new, .inl failed⟩
      obtain ⟨firstKnown, known⟩ := List.forall_mem_cons.mp known
      by_cases seen : first ∈ passed
      · exact .inl ⟨seen, before, name, after, rfl, known, new, failed⟩
      obtain ⟨found, here⟩ := firstKnown.resolve_left seen
      have different : name ≠ first := by
        rintro rfl
        exact nomatch here.symm.trans failed
      exact .inr ⟨seen, .inr ⟨found, here, before, name, after, rfl,
        fun earlier member => (known earlier member).imp_left (List.mem_cons_of_mem first),
        List.not_mem_cons_of_ne_of_not_mem different new, failed⟩⟩

/-- So names resolve just where each that is not passed over is found, -/
theorem filesOf_ok_iff : (∃ files, filesOf r cwd t passed (names.map .str) = .ok files) ↔
    ∀ name ∈ names, name ∈ passed ∨ ∃ found, appFiles r cwd t name = .ok found := by
  classical
  constructor
  · rintro ⟨files, resolved⟩
    by_contra unknown
    obtain ⟨name, first⟩ : ∃ name, names.find? (fun name =>
        ¬ (name ∈ passed ∨ ∃ found, appFiles r cwd t name = .ok found)) = some name := by
      simpa [← Option.isSome_iff_exists, List.find?_isSome] using unknown
    obtain ⟨lost, before, after, rfl, known⟩ := List.find?_eq_some_iff_append.mp first
    obtain ⟨new, notFound⟩ := not_or.mp (of_decide_eq_true lost)
    have known : ∀ earlier ∈ before, earlier ∈ passed ∨ ∃ found, appFiles r cwd t earlier = .ok found := by
      simpa only [decide_not, Bool.not_not, decide_eq_true_eq] using known
    cases here : appFiles r cwd t name with
    | ok found => exact notFound ⟨found, here⟩
    | error e =>
      have failed := filesOf_error_iff.mpr ⟨before, name, after, rfl, known, new, here⟩
      exact nomatch resolved.symm.trans failed
  · intro known
    cases resolved : filesOf r cwd t passed (names.map .str) with
    | ok files => exact ⟨files, rfl⟩
    | error e =>
      obtain ⟨before, name, after, rfl, -, new, failed⟩ := filesOf_error_iff.mp resolved
      obtain ⟨found, here⟩ := (known name (by simp)).resolve_left new
      exact nomatch here.symm.trans failed

/-- and to the files of just these. -/
theorem mem_filesOf_iff {files : List String} (resolved : filesOf r cwd t passed (names.map .str) = .ok files)
    {file : String} : file ∈ files ↔
      ∃ name ∈ names, name ∉ passed ∧ ∃ found, appFiles r cwd t name = .ok found ∧ file ∈ found := by
  induction names generalizing passed files with
  | nil =>
    cases resolved
    simp
  | cons name rest ih =>
    obtain ⟨_, ⟨⟩, ⟨seen, later⟩ | ⟨new, found, others, here, later, rfl⟩⟩ := filesOf_cons_ok_iff.mp resolved
    · simp [ih later, seen]
    -- What has been found once is passed over from here on, and its files are there already.
    rw [List.mem_append, ih later]
    constructor
    · rintro (inside | ⟨other, member, unseen, more⟩)
      · exact ⟨name, List.mem_cons_self, new, found, here, inside⟩
      · exact ⟨other, List.mem_cons_of_mem name member, fun was => unseen (List.mem_cons_of_mem name was), more⟩
    · rintro ⟨other, member, unseen, more, known, inside⟩
      by_cases same : other = name
      · subst same
        cases here.symm.trans known
        exact .inl inside
      · exact .inr ⟨other, (List.mem_cons.mp member).resolve_left same, by simp [same, unseen], more, known, inside⟩

theorem resolve_eq_ok_iff {names : List Json} {apps : List ProjectApp} {files : FileSet} :
    resolve r cwd t names apps = .ok files ↔
      ∃ texts, filesOf r cwd t (apps.map (·.name)) names = .ok texts ∧ FileSet.of cwd texts = files := by
  simp only [resolve, bind_ok_iff, pure, Except.pure, Except.ok.injEq]

/-- The same names are resolved to the same files, and the same ones passed over. -/
theorem resolve_eq_of_mem_iff {apps apps' : List ProjectApp} {files : FileSet}
    (same : ∀ name, name ∈ names ↔ name ∈ names')
    (samePassed : ∀ name, name ∈ apps.map (·.name) ↔ name ∈ apps'.map (·.name))
    (resolved : resolve r cwd t (names.map .str) apps = .ok files) :
    resolve r cwd t (names'.map .str) apps' = .ok files := by
  obtain ⟨texts, all, rfl⟩ := resolve_eq_ok_iff.mp resolved
  have found := filesOf_ok_iff.mp ⟨texts, all⟩
  obtain ⟨texts', all'⟩ := filesOf_ok_iff.mpr fun name member =>
    (found name ((same name).mpr member)).imp_left (samePassed name).mp
  have sameFiles : ∀ file, file ∈ texts' ↔ file ∈ texts := by
    intro file
    rw [mem_filesOf_iff all, mem_filesOf_iff all']
    simp only [same, samePassed]
  exact resolve_eq_ok_iff.mpr ⟨texts', all', FileSet.ext fun file => by simp only [FileSet.mem_of, sameFiles]⟩

/-- The files of the first names are resolved before all others, whatever follows them. -/
theorem filesOf_append {first second : List Json}
    {passed files : List String} (resolved : filesOf r cwd t passed (first ++ second) = .ok files) :
    ∃ front back, filesOf r cwd t passed first = .ok front ∧ files = front ++ back := by
  induction first generalizing passed files with
  | nil => exact ⟨[], files, rfl, rfl⟩
  | cons value rest ih =>
    rw [List.cons_append] at resolved
    obtain ⟨name, named, ⟨seen, later⟩ | ⟨new, found, others, here, later, rfl⟩⟩ := filesOf_cons_ok_iff.mp resolved
    · obtain ⟨front, back, inFront, rfl⟩ := ih later
      exact ⟨front, back, filesOf_cons_ok_iff.mpr ⟨name, named, .inl ⟨seen, inFront⟩⟩, rfl⟩
    · obtain ⟨front, back, inFront, rfl⟩ := ih later
      have both := filesOf_cons_ok_iff.mpr ⟨name, named, .inr ⟨new, found, front, here, inFront, rfl⟩⟩
      exact ⟨found ++ front, back, both, (List.append_assoc found front back).symm⟩

/-- Fewer names resolve where more do, to fewer files. -/
theorem resolve_append {first second : List Json}
    {apps : List ProjectApp} {files : FileSet}
    (resolved : resolve r cwd t (first ++ second) apps = .ok files) :
    ∃ front, resolve r cwd t first apps = .ok front ∧ ∀ file ∈ front, file ∈ files := by
  obtain ⟨texts, all, rfl⟩ := resolve_eq_ok_iff.mp resolved
  obtain ⟨front, back, inFront, rfl⟩ := filesOf_append all
  refine ⟨FileSet.of cwd front, resolve_eq_ok_iff.mpr ⟨front, inFront, rfl⟩, fun file member => ?_⟩
  obtain ⟨text, given, key⟩ := FileSet.mem_of.mp member
  exact FileSet.mem_of.mpr ⟨text, List.mem_append_left back given, key⟩

/-- What is resolved are keys. -/
theorem canonical_resolve {names : List Json}
    {apps : List ProjectApp} {files : FileSet} (rooted : Path.Rooted cwd)
    (resolved : resolve r cwd t names apps = .ok files) : files.Canonical cwd := by
  obtain ⟨texts, -, rfl⟩ := resolve_eq_ok_iff.mp resolved
  exact FileSet.canonical_of rooted texts

theorem canonical_projectFiles {apps : List ProjectApp}
    {files : FileSet} (rooted : Path.Rooted cwd) (resolved : projectFiles cwd t apps = .ok files) :
    files.Canonical cwd := by
  unfold projectFiles at resolved
  simp only [bind, Except.bind] at resolved
  split at resolved
  · cases resolved
  · cases resolved
    exact FileSet.canonical_of rooted _

end Manifest

/-! ## Resolving within a session -/

/-- From this session an action ends with this result. -/
def Act.Yields {α : Type} (act : Act σ α) (s : Session σ) (a : α) : Prop := ∃ s', act s = .ok a s'

/-- Looking at the tree changes nothing. -/
theorem Resolver.ensures_look {r : Resolver} {α : Type} {f : Registry → FileTree → Except Failure α}
    {post : α → Session σ → Prop} {stopped : Failure → Session σ → Prop} :
    (r.look f).Ensures s post stopped ↔
      (∀ a, f (r.registry s) s.tree = .ok a → post a s) ∧
        ∀ e, f (r.registry s) s.tree = .error e → stopped e s := by
  unfold Act.Ensures Resolver.look
  cases f (r.registry s) s.tree <;> simp

theorem Resolver.resolve_ends (r : Resolver) (names : Json) (apps : List ProjectApp) (s : Session σ) :
    (r.resolve names apps).Ensures s
      (fun files s' => s.LoggedSince s' ∧ ∃ items, names.elements = .ok items ∧
        Manifest.resolve (r.registry s) r.cwd s.tree items apps = .ok files)
      fun _ s' => s.LoggedSince s' := by
  unfold Resolver.resolve
  rw [Act.ensures_bind, Act.ensures_info, Resolver.ensures_look]
  refine ⟨?_, fun e _ => s.loggedSince_info _⟩
  intro files resolved
  cases listed : names.elements with
  | error e => simp [listed, bind, Except.bind] at resolved
  | ok items =>
    simp only [listed, bind, Except.bind] at resolved
    exact ⟨s.loggedSince_info _, items, rfl, resolved⟩

theorem Resolver.resolve_yields {r : Resolver} {names : Json} {items : List Json} {apps : List ProjectApp}
    {files : FileSet} (listed : names.elements = .ok items)
    (resolved : Manifest.resolve (r.registry s) r.cwd s.tree items apps = .ok files) :
    (r.resolve names apps).Yields s files := by
  refine ⟨{ s with log := s.log ++ [⟨.info, "Resolving files..."⟩] }, ?_⟩
  have registry : r.registry { s with log := s.log ++ [⟨.info, "Resolving files..."⟩] } = r.registry s := rfl
  simp [Resolver.resolve, Resolver.look, Act.info_eq_ok, bind, EStateM.bind, Except.bind, listed, registry,
    resolved]

/-- What is resolved depends on the tree and the search path alone. -/
theorem Resolver.yields_of_same {r : Resolver} {names : Json} {apps : List ProjectApp} {s' : Session σ}
    {files : FileSet} (yields : (r.resolve names apps).Yields s files) (sameTree : s'.tree = s.tree)
    (samePath : s'.searchPath = s.searchPath) : (r.resolve names apps).Yields s' files := by
  obtain ⟨_, ran⟩ := yields
  obtain ⟨-, items, listed, resolved⟩ := (r.resolve_ends names apps s).of_ok ran
  refine Resolver.resolve_yields listed ?_
  rw [Resolver.registry, samePath, sameTree]
  exact resolved

namespace Job

variable (j : Job σ) {required own : FileSet}

theorem baseFiles_ends (s : Session σ) :
    j.baseFiles.Ensures s
      (fun files s' => s.LoggedSince s' ∧ ∃ names, j.settings.baseApps.elements = .ok names ∧
        Manifest.resolve (j.resolver.registry s) j.keeper.cwd s.tree names j.project.apps = .ok files)
      fun _ s' => s.LoggedSince s' :=
  j.resolver.resolve_ends j.settings.baseApps j.project.apps s

theorem requiredFiles_ends (s : Session σ) :
    j.requiredFiles.Ensures s
      (fun files s' => s.LoggedSince s' ∧ ∃ names, j.requiredApps = .ok names ∧
        Manifest.resolve (j.resolver.registry s) j.keeper.cwd s.tree names j.project.apps = .ok files)
      fun _ s' => s.LoggedSince s' := by
  unfold requiredFiles
  rw [Act.ensures_bind, Act.ensures_lift]
  refine ⟨?_, fun e _ => .refl s⟩
  intro names asked
  refine (j.resolver.resolve_ends (.arr names) j.project.apps s).mono ?_ fun e s' logged => logged
  rintro files s' ⟨logged, items, listed, resolved⟩
  cases listed
  exact ⟨logged, names, asked, resolved⟩

/-- What is required depends on the tree and the search path alone. -/
theorem requiredFiles_yields_of_same {s' : Session σ} (yields : j.requiredFiles.Yields s required)
    (sameTree : s'.tree = s.tree) (samePath : s'.searchPath = s.searchPath) :
    j.requiredFiles.Yields s' required := by
  obtain ⟨_, ran⟩ := yields
  obtain ⟨_, names, asked, _⟩ := (j.requiredFiles_ends s).of_ok ran
  unfold requiredFiles at ran ⊢
  rw [asked] at ran ⊢
  have again : (j.resolver.resolve (.arr names) j.project.apps).Yields s' required :=
    Resolver.yields_of_same ⟨_, ran⟩ sameTree samePath
  exact again

theorem ownFiles_ends (s : Session σ) :
    j.ownFiles.Ensures s
      (fun files s' => s.LoggedSince s' ∧ Manifest.projectFiles j.keeper.cwd s.tree j.project.apps = .ok files)
      fun _ s' => s.LoggedSince s' := by
  unfold ownFiles Resolver.ownFiles
  rw [Act.ensures_bind, Act.ensures_info, Resolver.ensures_look]
  exact ⟨fun files resolved => ⟨s.loggedSince_info _, resolved⟩, fun e _ => s.loggedSince_info _⟩

theorem ownFiles_yields_of_same {s' : Session σ} (yields : j.ownFiles.Yields s own)
    (sameTree : s'.tree = s.tree) : j.ownFiles.Yields s' own := by
  obtain ⟨_, ran⟩ := yields
  have resolved := ((j.ownFiles_ends s).of_ok ran).2
  rw [← sameTree] at resolved
  refine ⟨{ s' with log := s'.log ++ [⟨.info, "Resolving files..."⟩] }, ?_⟩
  have root : j.resolver.cwd = j.keeper.cwd := rfl
  simp [ownFiles, Resolver.ownFiles, Resolver.look, Act.info_eq_ok, bind, EStateM.bind, root, resolved]

variable {j}

theorem canonical_required (rooted : Path.Rooted j.keeper.cwd) (yields : j.requiredFiles.Yields s required) :
    required.Canonical j.keeper.cwd := by
  obtain ⟨s', ran⟩ := yields
  obtain ⟨_, names, _, resolved⟩ := (j.requiredFiles_ends s).of_ok ran
  exact Manifest.canonical_resolve rooted resolved

theorem canonical_own (rooted : Path.Rooted j.keeper.cwd) (yields : j.ownFiles.Yields s own) :
    own.Canonical j.keeper.cwd := by
  obtain ⟨s', ran⟩ := yields
  exact Manifest.canonical_projectFiles rooted ((j.ownFiles_ends s).of_ok ran).2

/-- The required applications are known just where both lists of the settings are. -/
theorem requiredApps_eq_ok_iff {names : List Json} : j.requiredApps = .ok names ↔
    ∃ base, j.settings.baseApps.elements = .ok base ∧ ∃ extra, j.settings.extraApps.elements = .ok extra ∧
      base ++ extra ++ j.project.dependencyApps.map .str = names := by
  simp only [requiredApps, bind_ok_iff, pure, Except.pure, Except.ok.injEq]

/-- Where the project PLT's files have been resolved, the base PLT's files resolve in the same tree,
and all of them are required. -/
theorem base_of_required (yields : j.requiredFiles.Yields s required) :
    ∃ base : FileSet, (∀ file ∈ base, file ∈ required) ∧ ∀ s' : Session σ,
      s'.tree = s.tree → s'.searchPath = s.searchPath → j.baseFiles.Yields s' base := by
  obtain ⟨_, ran⟩ := yields
  obtain ⟨_, names, asked, resolved⟩ := (j.requiredFiles_ends s).of_ok ran
  obtain ⟨baseNames, listed, extra, -, rfl⟩ := requiredApps_eq_ok_iff.mp asked
  rw [List.append_assoc] at resolved
  obtain ⟨base, resolvedBase, within⟩ := Manifest.resolve_append resolved
  refine ⟨base, within, ?_⟩
  intro s' sameTree samePath
  have registry : j.resolver.registry s' = j.resolver.registry s := by simp [Resolver.registry, samePath]
  refine Resolver.resolve_yields listed ?_
  rw [registry, sameTree]
  exact resolvedBase

end Job

end PltKeeper
