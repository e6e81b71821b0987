import PltKeeper.Backend.Listing
import PltKeeper.Proofs.Application.Objects
import PltKeeper.Proofs.Application.Versions

/-! The files that a PLT must hold and the files that are analysed with it have nothing in common. Nothing
compares the two. An application that is sought is found in a directory below one that has its name, what is
listed there keeps both directories in its key, and the names of the project's own applications are passed over.
So the directory above that of a file tells for what application it was resolved, of either kind. -/
namespace PltKeeper

namespace FileTree

/-- The entries of a tree have names that may stand between slashes, and none is the directory above. -/
def Named (t : FileTree) : Prop :=
  ∀ entry ∈ t.entries, ∀ name ∈ entry.1, Path.IsComponent name ∧ name ≠ ".."

instance (t : FileTree) : Decidable t.Named :=
  inferInstanceAs (Decidable (∀ entry ∈ t.entries, ∀ name ∈ entry.1, Path.IsComponent name ∧ name ≠ ".."))

variable {t : FileTree} {cwd name : String} {p : Path} {names : List String}

theorem Named.of_list (named : t.Named) (listed : t.list cwd p = .ok names) (member : name ∈ names) :
    Path.IsComponent name ∧ name ≠ ".." := by
  obtain ⟨l, -, -, rfl⟩ := list_eq_ok_iff.mp listed
  obtain ⟨entry, inTree, last⟩ := List.mem_filterMap.mp member
  split at last
  · exact named entry inTree name (List.mem_of_getLast? last)
  · exact nomatch last

end FileTree

/-! ## The application of a directory -/

/-- The application whose objects a directory holds, by the name of the directory above. -/
def AppDirectory.above (ebin : Path) : String := (ofName ebin.parent.name).name

namespace Registry

open AppDirectory

variable {r : Registry} {cwd name : String} {t : FileTree} {ebin : Path}

/-- A registry whose directories are spelled as paths are, those of its search path without `..`, in a tree and
seen from a working directory that are as they should be. -/
structure Orderly (r : Registry) (cwd : String) (t : FileTree) : Prop where
  rooted : Path.Rooted cwd
  working : ".." ∉ Path.components cwd
  tree : t.Named
  libRoot : ∀ root ∈ r.libRoot, root.Proper
  searchPath : ∀ ebin ∈ r.searchPath, ebin.Proper ∧ ".." ∉ ebin.parts

/-- A directory that is above one of an application's objects, wherever it is seen from. -/
def Houses (cwd name : String) (ebin : Path) : Prop :=
  ebin.Proper ∧ above (Path.parse cwd / ebin).settled = name

theorem houses_of_inSearchPath? (orderly : r.Orderly cwd t) (named : name ≠ "")
    (found : r.inSearchPath? name = some ebin) : Houses cwd name ebin := by
  obtain ⟨proper, plain⟩ := orderly.searchPath ebin (List.mem_of_find?_eq_some found)
  have said := List.find?_some found
  simp only [Bool.and_eq_true, decide_eq_true_iff] at said
  have here : ebin.parent.name ≠ "" := by
    intro nameless
    rw [nameless] at said
    exact named said.2.symm
  have settled : (Path.parse cwd / ebin).settled = Path.parse cwd / ebin := by
    rw [Path.settled, Path.collapse_plain (Path.plain_join orderly.working plain)]
  refine ⟨proper, ?_⟩
  rw [settled, above, Path.parent_name_join here]
  exact said.2

/-- The highest candidate is one of them. -/
theorem mem_of_highest? {all : List Candidate} {best : Candidate} (found : Candidate.highest? all = some best) :
    best ∈ all := by
  have fold (rest : List Candidate) (c : Candidate) :
      rest.foldl (fun best c => if best.lt c then c else best) c ∈ c :: rest := by
    induction rest generalizing c with
    | nil => exact List.mem_singleton_self c
    | cons next rest ih =>
      rcases List.mem_cons.mp (ih (if c.lt next then next else c)) with here | later
      · rw [List.foldl_cons, here]
        split <;> simp
      · exact List.mem_cons_of_mem c (List.mem_cons_of_mem next later)
  cases all with
  | nil => exact nomatch found
  | cons c rest =>
    cases found
    exact fold rest c

theorem houses_of_inLibRoot? (orderly : r.Orderly cwd t) (found : r.inLibRoot? cwd t name = .ok (some ebin)) :
    Houses cwd name ebin := by
  unfold inLibRoot? at found
  cases place : r.libRoot with
  | none => simp [place, pure, Except.pure] at found
  | some root =>
    simp only [place, bind_ok_iff] at found
    obtain ⟨isDir, -, found⟩ := found
    split at found
    · obtain ⟨directories, listed, found⟩ := bind_ok_iff.mp found
      obtain ⟨all, ranked, found⟩ := bind_ok_iff.mp found
      obtain ⟨best, highest, rfl⟩ := Option.map_eq_some_iff.mp (Except.ok.inj found)
      obtain ⟨d, candidate, made⟩ := mem_of_mapM ranked (mem_of_highest? highest)
      obtain ⟨inRoot, named⟩ := List.mem_filter.mp candidate
      obtain ⟨key, -, made⟩ := bind_ok_iff.mp made
      cases made
      obtain ⟨component, ordinary⟩ := orderly.tree.of_list (mapError_ok_iff.mp listed) inRoot
      have below : Path.Proper ⟨.relative, [d, ebinName]⟩ :=
        List.forall_mem_cons.mpr ⟨component, List.forall_mem_singleton.mpr ⟨by decide, by decide, by decide⟩⟩
      refine ⟨(orderly.libRoot root place).join below, ?_⟩
      have kept : Path.collapse ((Path.parse cwd / root).parts ++ [d, ebinName]) =
          Path.collapse (Path.parse cwd / root).parts ++ [d] ++ [ebinName] := by
        rw [← Path.collapse_append _ ordinary, ← Path.collapse_append _ (by decide : ebinName ≠ "..")]
        simp
      rw [Path.settled, Path.join_below, kept, above, Path.parent, List.dropLast_concat, Path.name,
        List.getLast?_concat]
      exact of_decide_eq_true named
    · cases found

/-- Where an application is found there is a directory of its name above. -/
theorem houses_of_locate (orderly : r.Orderly cwd t) (named : name ≠ "")
    (found : r.locate cwd t name = .ok (some ebin)) : Houses cwd name ebin := by
  rw [locate_eq] at found
  obtain ⟨place?, placed, found⟩ := bind_ok_iff.mp found
  obtain ⟨rfl, -⟩ := there?_eq_some_iff.mp found
  unfold Registry.place at placed
  split at placed
  · rename_i inPath
    cases placed
    exact houses_of_inSearchPath? orderly named inPath
  · exact houses_of_inLibRoot? orderly placed

end Registry

/-! ## The application of a file -/

/-- The application whose objects a file is one of, by the name of the directory above its own. -/
def applicationOf (file : String) : String := AppDirectory.above (Path.parse file).parent

namespace Manifest

open AppDirectory

variable {r : Registry} {cwd name file : String} {t : FileTree} {texts : List String} {ebin : Path}

/-- What is listed in a directory keeps it in its key. -/
theorem applicationOf_objectFiles (rooted : Path.Rooted cwd) (tree : t.Named) (proper : ebin.Proper)
    (listed : objectFiles cwd t ebin = .ok texts) (member : file ∈ texts) :
    applicationOf (Path.canonical cwd file) = above (Path.parse cwd / ebin).settled := by
  obtain ⟨_, @⟨names, name, _, listing, inNames, -, -⟩, rfl⟩ := (mem_objectFiles_iff listed).mp member
  obtain ⟨component, ordinary⟩ := tree.of_list listing inNames
  have below : Path.Proper ⟨.relative, [name]⟩ := List.forall_mem_singleton.mpr component
  rw [applicationOf, Path.parse_canonical (Path.isAbsolute_join rooted _)
    ((Path.proper_parse cwd).join (proper.join below)), Path.join_below, Path.settled, Path.collapse_append _ ordinary,
    Path.parent, List.dropLast_concat]
  rfl

/-- A file of a name has the name's application. -/
theorem applicationOf_appFiles (orderly : r.Orderly cwd t) (named : name ≠ "")
    (found : appFiles r cwd t name = .ok texts) (member : file ∈ texts) :
    applicationOf (Path.canonical cwd file) = name := by
  obtain ⟨ebin, located, listed⟩ := appFiles_eq_ok found
  obtain ⟨proper, above⟩ := Registry.houses_of_locate orderly named located
  rw [applicationOf_objectFiles orderly.rooted orderly.tree proper listed member, above]

/-- Only texts name applications. -/
theorem nameOf_eq_ok {value : Json} (named : nameOf value = .ok name) : value = .str name := by
  cases value <;> simp [nameOf] at named
  rw [named]

/-- What is resolved for names is of no application that is passed over. -/
theorem applicationOf_filesOf (orderly : r.Orderly cwd t) {passed : List String} {names : List Json}
    (named : Json.str "" ∉ names) (found : filesOf r cwd t passed names = .ok texts) (member : file ∈ texts) :
    applicationOf (Path.canonical cwd file) ∉ passed := by
  induction names generalizing passed texts with
  | nil =>
    cases found
    exact nomatch member
  | cons value rest ih =>
    rw [List.mem_cons, not_or] at named
    obtain ⟨name, said, ⟨_, later⟩ | ⟨new, first, others, here, later, rfl⟩⟩ := filesOf_cons_ok_iff.mp found
    · exact ih named.2 later member
    · rcases List.mem_append.mp member with member | member
      · have some : name ≠ "" := by
          rintro rfl
          exact named.1 (nameOf_eq_ok said).symm
        rw [applicationOf_appFiles orderly some here member]
        exact new
      · exact fun seen => ih named.2 later member (List.mem_cons_of_mem name seen)

/-- What is analysed is of an application whose directory it is listed in. -/
theorem applicationOf_projectFiles (rooted : Path.Rooted cwd) (tree : t.Named) {apps : List ProjectApp}
    {files : FileSet} (proper : ∀ app ∈ apps, app.ebin.Proper) (resolved : projectFiles cwd t apps = .ok files)
    (member : file ∈ files) : ∃ app ∈ apps, applicationOf file = above (Path.parse cwd / app.ebin).settled := by
  obtain ⟨app, inApps, texts, listed, text, inTexts, rfl⟩ := mem_of_projectFiles resolved member
  exact ⟨app, inApps, applicationOf_objectFiles rooted tree (proper app inApps) listed inTexts⟩

end Manifest

/-! ## What is required and what is analysed -/

/-- An application in a directory of its name, which is spelled as paths are, without `..`. -/
structure ProjectApp.Housed (cwd : String) (app : ProjectApp) : Prop where
  proper : app.ebin.Proper
  plain : ".." ∉ app.ebin.parts
  house : AppDirectory.above (Path.parse cwd / app.ebin) = app.name

/-- A directory that its own path says to be below one of the application's name is, wherever it is seen from. -/
theorem ProjectApp.housed_of_house {cwd : String} {app : ProjectApp} (proper : app.ebin.Proper)
    (plain : ".." ∉ app.ebin.parts) (named : app.name ≠ "") (house : AppDirectory.above app.ebin = app.name) :
    app.Housed cwd := by
  have some : app.ebin.parent.name ≠ "" := by
    intro nameless
    rw [AppDirectory.above, nameless] at house
    exact named house.symm
  exact ⟨proper, plain, by rw [AppDirectory.above, Path.parent_name_join some]; exact house⟩

theorem ProjectApp.Housed.settled {cwd : String} {app : ProjectApp} (housed : app.Housed cwd)
    (working : ".." ∉ Path.components cwd) : AppDirectory.above (Path.parse cwd / app.ebin).settled = app.name := by
  rw [Path.settled, Path.collapse_plain (Path.plain_join working housed.plain)]
  exact housed.house

/-- An action ends with one result at most. -/
theorem Act.Yields.unique {σ α : Type} {act : Act σ α} {s : Session σ} {a b : α} (first : act.Yields s a)
    (second : act.Yields s b) : a = b := by
  obtain ⟨_, ran⟩ := first
  obtain ⟨_, ranToo⟩ := second
  cases ran.symm.trans ranToo
  rfl

namespace Job

variable {σ : Type}

/-- A run from a session in which resolution finds things in order: what it goes by is as it should be, every
application of the project is in a directory of its name, and no name is empty. -/
structure InOrder (j : Job σ) (s : Session σ) : Prop where
  registry : (j.resolver.registry s).Orderly j.keeper.cwd s.tree
  housed : ∀ app ∈ j.project.apps, app.Housed j.keeper.cwd
  baseNames : ∀ names, j.settings.baseApps.elements = .ok names → Json.str "" ∉ names
  names : ∀ names, j.requiredApps = .ok names → Json.str "" ∉ names

variable {j : Job σ} {s s' : Session σ} {names : List Json} {files own : FileSet} {file : String}

/-- What is resolved for names, the project's applications aside, is of none of them; what is analysed is. -/
theorem disjoint_of_resolve (orderly : j.InOrder s) (tree : s'.tree.Named) (named : Json.str "" ∉ names)
    (resolved : Manifest.resolve (j.resolver.registry s) j.keeper.cwd s.tree names j.project.apps = .ok files)
    (analysed : j.ownFiles.Yields s' own) (member : file ∈ files) : file ∉ own := by
  intro inOwn
  obtain ⟨_, ran⟩ := analysed
  obtain ⟨texts, found, text, inTexts, rfl⟩ := Manifest.mem_of_resolve resolved member
  obtain ⟨app, inApps, same⟩ := Manifest.applicationOf_projectFiles orderly.registry.rooted tree
    (fun app inApps => (orderly.housed app inApps).proper) ((j.ownFiles_ends s').of_ok ran).2 inOwn
  refine Manifest.applicationOf_filesOf orderly.registry named found inTexts ?_
  rw [same, (orderly.housed app inApps).settled orderly.registry.working]
  exact List.mem_map_of_mem inApps

/-- The files of the base PLT resolve where those of the project PLT do, and are among them. Neither are any of
those that are analysed, be it in a later session. -/
theorem files_apart (orderly : j.InOrder s) :
    (∀ required, j.requiredFiles.Yields s required →
      (∃ base, j.baseFiles.Yields s base) ∧ ∀ base, j.baseFiles.Yields s base → ∀ file ∈ base, file ∈ required) ∧
    ∀ s' own, s'.tree.Named → j.ownFiles.Yields s' own →
      (∀ required, j.requiredFiles.Yields s required → ∀ file ∈ required, file ∉ own) ∧
        ∀ base, j.baseFiles.Yields s base → ∀ file ∈ base, file ∉ own := by
  refine ⟨fun required yields => ?_, fun s' own tree analysed => ⟨?_, ?_⟩⟩
  · obtain ⟨base, within, resolves⟩ := base_of_required yields
    have found := resolves s rfl rfl
    refine ⟨⟨base, found⟩, fun base' found' => ?_⟩
    obtain rfl := found.unique found'
    exact within
  · rintro required ⟨_, ran⟩ file
    obtain ⟨_, names, asked, resolved⟩ := (j.requiredFiles_ends s).of_ok ran
    exact disjoint_of_resolve orderly tree (orderly.names names asked) resolved analysed
  · rintro base ⟨_, ran⟩ file
    obtain ⟨_, names, asked, resolved⟩ := (j.baseFiles_ends s).of_ok ran
    exact disjoint_of_resolve orderly tree (orderly.baseNames names asked) resolved analysed

/-- An application of the project, in a directory with a version, and two others: one in the search path and one
below a library root that is reached by a detour. -/
def ofThree : Job Listing.Script where
  keeper := {
    backend := Listing.backend "/w"
    cwd := "/w"
    wishes := {}
    output := Path.parse "/w/26.dialyzer_warnings" }
  settings := {
    baseApps := .arr [.str "stdlib"]
    baseDir := .path (Path.parse "/w")
    cacheDir := .path (Path.parse "/w") }
  project := {
    apps := [⟨"app", Path.parse "lib/app-1.0/ebin", ["dep", "app"]⟩]
    codePaths := [Path.parse "/w/dep/ebin"] }
  plt := Path.parse "/w/rebar3_26_plt"
  basePlt := Path.parse "/w/base_26_plt"
  libRoot := some (Path.parse "/w/../otp/lib")

/-- The three in a tree, with the search path of a run. -/
def threeSession : Session Listing.Script where
  tree := {
    entries := [
      (["w"], .dir),
      (["w", "lib"], .dir),
      (["w", "lib", "app-1.0"], .dir),
      (["w", "lib", "app-1.0", "ebin"], .dir),
      (["w", "lib", "app-1.0", "ebin", "app.beam"], .file []),
      (["w", "dep"], .dir),
      (["w", "dep", "ebin"], .dir),
      (["w", "dep", "ebin", "dep.beam"], .file []),
      (["otp"], .dir),
      (["otp", "lib"], .dir),
      (["otp", "lib", "stdlib-5.1"], .dir),
      (["otp", "lib", "stdlib-5.1", "ebin"], .dir),
      (["otp", "lib", "stdlib-5.1", "ebin", "lists.beam"], .file [])] }
  searchPath := [Path.parse "/w/dep/ebin"]
  backend := {}

theorem inOrder_ofThree : ofThree.InOrder threeSession where
  registry := {
    rooted := by decide +kernel
    working := by decide +kernel
    tree := by decide +kernel
    libRoot := by
      rintro _ ⟨⟩
      exact Path.proper_parse _
    searchPath := by
      refine List.forall_mem_singleton.mpr ⟨Path.proper_parse _, ?_⟩
      decide +kernel }
  housed := List.forall_mem_singleton.mpr
    (ProjectApp.housed_of_house (Path.proper_parse _) (by decide +kernel) (by decide) (by decide +kernel))
  baseNames := by
    rintro _ ⟨⟩
    simp
  names := by
    rintro _ ⟨⟩
    simp [ofThree, Project.dependencyApps]

theorem files_apart_of_three : ∃ required base own,
    ofThree.InOrder threeSession ∧ threeSession.tree.Named ∧ ofThree.requiredFiles.Yields threeSession required ∧
      ofThree.baseFiles.Yields threeSession base ∧ ofThree.ownFiles.Yields threeSession own ∧
      required.toList = ["/otp/lib/stdlib-5.1/ebin/lists.beam", "/w/dep/ebin/dep.beam"] ∧
      own.toList = ["/w/lib/app-1.0/ebin/app.beam"] ∧
      (∀ file ∈ base, file ∈ required) ∧ (∀ file ∈ required, file ∉ own) ∧ ∀ file ∈ base, file ∉ own := by
  have resolves : ofThree.requiredFiles.check threeSession (fun required _ =>
      required.toList = ["/otp/lib/stdlib-5.1/ebin/lists.beam", "/w/dep/ebin/dep.beam"]) = true := by decide +kernel
  have analyses : ofThree.ownFiles.check threeSession (fun own _ =>
      own.toList = ["/w/lib/app-1.0/ebin/app.beam"]) = true := by decide +kernel
  obtain ⟨required, _, ran, files⟩ := Act.of_check resolves
  obtain ⟨own, _, ranOwn, ownFiles⟩ := Act.of_check analyses
  have tree := inOrder_ofThree.registry.tree
  obtain ⟨within, apart⟩ := files_apart inOrder_ofThree
  obtain ⟨⟨base, yields⟩, subset⟩ := within required ⟨_, ran⟩
  obtain ⟨disjoint, baseDisjoint⟩ := apart threeSession own tree ⟨_, ranOwn⟩
  exact ⟨required, base, own, inOrder_ofThree, tree, ⟨_, ran⟩, yields, ⟨_, ranOwn⟩, of_decide_eq_true files,
    of_decide_eq_true ownFiles, subset base yields, disjoint required ⟨_, ran⟩, baseDisjoint base yields⟩

end Job

end PltKeeper
