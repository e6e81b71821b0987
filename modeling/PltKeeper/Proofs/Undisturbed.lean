import PltKeeper.Command.Analyze
import PltKeeper.Proofs.Traversal

/-! What the user cannot stop. Only a process that is running can be interrupted; whatever reads or changes
the tree, finds applications, takes options from a configuration or lays out a message fails in other ways. -/
namespace PltKeeper

/-- Nothing that can be stopped by the user. -/
abbrev Undisturbed {α : Type} (x : Except Failure α) : Prop := OnlyFails x (· ≠ .interrupted)

open OnlyFails

variable {α : Type} {t : FileTree} {cwd : String} {p q : Path}

/-! ## The tree -/

namespace FileTree

theorem failure_ne_interrupted (r : Refusal) (file : String) : r.failure file ≠ .interrupted := by
  cases r with
  | unusableName =>
    obtain ⟨text, same⟩ | ⟨fault, same⟩ := Failure.unusable_cases file <;>
      simp [Refusal.failure, same]
  | _ => exact nofun

/-- Whatever the system refuses is no interruption. -/
theorem undisturbed_of_refusal {x : Except Refusal α} {file : String} :
    Undisturbed (x.mapError (Refusal.failure file)) :=
  restated fun r => failure_ne_interrupted r file

theorem undisturbed_list : Undisturbed (t.list cwd p) := undisturbed_of_refusal

theorem undisturbed_read : Undisturbed (t.read cwd p) := undisturbed_of_refusal

theorem undisturbed_modify {change : List UInt8 → List UInt8} : Undisturbed (t.modify cwd p change) :=
  undisturbed_of_refusal

theorem undisturbed_appendTexts {stops? : Stops} {texts : List String} :
    Undisturbed (t.appendTexts cwd p stops? texts).1 := by
  unfold appendTexts
  dsimp only
  split
  · rename_i refused
    exact error (undisturbed_modify _ refused)
  · dsimp only
    split
    · exact error nofun
    · exact error nofun
    · exact ok _

theorem undisturbed_test {holds : Entry → Bool} : Undisturbed (t.test cwd p holds) := by
  unfold test
  split
  · exact ok _
  · exact error (failure_ne_interrupted _ _)
  · exact ok _

theorem undisturbed_copy : Undisturbed (t.copy cwd p q) := by
  unfold copy
  dsimp only
  split_ifs
  · exact error nofun
  · exact bind undisturbed_read fun _ _ => undisturbed_modify

theorem undisturbed_modifyNamed {file : String} {change : List UInt8 → List UInt8} :
    Undisturbed (t.modifyNamed cwd file change) := by
  unfold modifyNamed
  dsimp only
  split
  · refine mapError undisturbed_modify fun e other => ?_
    unfold Failure.renamed
    split
    · exact nofun
    · exact other
  · exact undisturbed_of_refusal
  · exact undisturbed_of_refusal

theorem undisturbed_acceptDir {r : Refusal} : Undisturbed (t.acceptDir cwd p r).1 := by
  unfold acceptDir
  split
  · exact ok _
  · exact error (failure_ne_interrupted _ _)

theorem undisturbed_makeDirsFrom {anchor : Anchor} {parts : List String} :
    Undisturbed (makeDirsFrom cwd anchor parts t).1 := by
  induction parts with
  | nil => exact ok _
  | cons part up ih =>
    rw [makeDirsFrom]
    split
    · exact ok _
    · split
      · rename_i above
        rw [above] at ih
        exact error (ih _ rfl)
      · split
        · exact ok _
        · exact undisturbed_acceptDir
    · exact undisturbed_acceptDir

theorem undisturbed_makeDirs : Undisturbed (t.makeDirs cwd p).1 := undisturbed_makeDirsFrom

end FileTree

/-! ## Applications -/

namespace Manifest

open FileTree

variable {r : Registry} {name : String}

theorem undisturbed_inaccessible {x : Except Failure α} (first : Undisturbed x) :
    Undisturbed (x.mapError (Registry.inaccessible p)) := by
  refine mapError first fun e other => ?_
  cases e with
  | interrupted => exact absurd rfl other
  | _ => exact nofun

theorem undisturbed_versionKey {version : String} : Undisturbed (AppDirectory.versionKey version) := by
  refine mapM fun part _ => ?_
  unfold AppDirectory.componentRank
  split
  · split
    · exact ok _
    · exact error nofun
  · exact ok _

theorem undisturbed_locate : Undisturbed (r.locate cwd t name) := by
  have inLibRoot : Undisturbed (r.inLibRoot? cwd t name) := by
    unfold Registry.inLibRoot?
    split
    · exact ok _
    · refine bind undisturbed_test fun there _ => ?_
      split
      · refine bind (undisturbed_inaccessible undisturbed_list) fun directories _ => ?_
        refine bind (mapM fun d _ => bind undisturbed_versionKey fun _ _ => ok _) fun _ _ => ok _
      · exact ok _
  have looked (ebin : Path) : Undisturbed (do
      return if ← t.isDir cwd ebin then some ebin else none : Except Failure (Option Path)) :=
    bind undisturbed_test fun there _ => ok _
  unfold Registry.locate
  split
  · refine bind (ok _) fun place _ => ?_
    cases place with
    | none => exact ok _
    | some ebin => exact looked ebin
  · refine bind inLibRoot fun place _ => ?_
    cases place with
    | none => exact ok _
    | some ebin => exact looked ebin

theorem undisturbed_objectFiles {ebin : Path} : Undisturbed (objectFiles cwd t ebin) :=
  undisturbed_inaccessible (bind undisturbed_list fun _ _ => bind (filterM fun _ _ => undisturbed_test) fun _ _ => ok _)

theorem undisturbed_filesOf {passed : List String} {names : List Json} :
    Undisturbed (filesOf r cwd t passed names) := by
  induction names generalizing passed with
  | nil => exact ok _
  | cons value rest ih =>
    rw [filesOf]
    refine bind ?_ fun name _ => ?_
    · cases value <;> first | exact ok _ | exact error nofun
    · split
      · exact ih
      · refine bind ?_ fun files _ => bind ih fun _ _ => ok _
        refine bind undisturbed_locate fun place _ => ?_
        split
        · exact undisturbed_objectFiles
        · exact error nofun

theorem undisturbed_resolve {names : List Json} {apps : List ProjectApp} :
    Undisturbed (resolve r cwd t names apps) := bind undisturbed_filesOf fun _ _ => ok _

theorem undisturbed_projectFiles {apps : List ProjectApp} : Undisturbed (projectFiles cwd t apps) := by
  refine bind (mapM fun app _ => bind undisturbed_test fun there _ => ?_) fun _ _ => ok _
  split
  · exact undisturbed_objectFiles
  · exact error nofun

end Manifest

/-! ## Configurations -/

section
variable {host : Host} {root : Path} {value : Json}

theorem undisturbed_elements : Undisturbed value.elements := by
  cases value <;> first | exact ok _ | exact error nofun

theorem undisturbed_section {name : String} : Undisturbed (value.section? name) := by
  unfold Json.section?
  split
  · split
    · exact ok _
    · exact error nofun
    · exact ok _
  · exact error nofun

theorem undisturbed_asPath : Undisturbed value.asPath := by
  cases value <;> first | exact ok _ | exact error nofun

theorem undisturbed_required {key : String} : Undisturbed (value.required key) := by
  unfold Json.required
  split
  · split
    · exact ok _
    · exact error nofun
  all_goals exact error nofun

theorem undisturbed_expandHome : Undisturbed (host.expandHome p) := by
  unfold Host.expandHome
  split
  · split
    · split
      · exact ok _
      · exact error nofun
    · exact ok _
  · exact ok _

theorem undisturbed_pathOf : Undisturbed (Settings.pathOf host value) :=
  bind undisturbed_asPath fun _ _ => undisturbed_expandHome

theorem undisturbed_locationOf : Undisturbed (Settings.locationOf host root value) := by
  have path {s : String} : Undisturbed (do
      let p ← host.expandHome (Path.parse s)
      return PltLocation.directory (.path (root / p)) : Except Failure PltLocation) :=
    bind undisturbed_expandHome fun _ _ => ok _
  unfold Settings.locationOf
  dsimp only
  split
  · split
    · exact ok _
    · exact path
  · exact path

theorem undisturbed_settings : Undisturbed (Settings.ofDocument host root value) := by
  refine bind undisturbed_section fun paths _ => bind undisturbed_pathOf fun baseDir _ => ?_
  refine bind undisturbed_section fun options _ => bind undisturbed_elements fun warnings _ => ?_
  refine bind undisturbed_elements fun extraApps _ => bind undisturbed_locationOf fun location _ => ?_
  refine bind undisturbed_elements fun baseApps _ => bind undisturbed_locationOf fun baseLocation _ => ?_
  refine bind undisturbed_pathOf fun cacheDir _ => ?_
  dsimp only
  split
  · exact bind (bind undisturbed_pathOf fun _ _ => ok _) fun _ _ => ok _
  · exact ok _

theorem undisturbed_override {s : Settings} {options : List (String × Json)} : Undisturbed (s.override options) := by
  refine foldlM (fun s option => ?_) s
  obtain ⟨name, value⟩ := option
  dsimp only
  split
  · exact ok _
  · unfold Settings.set
    split <;> first | exact ok _ | exact error nofun

theorem undisturbed_project : Undisturbed (Project.ofDocument host root value) := by
  refine bind undisturbed_section fun fields _ => bind undisturbed_elements fun apps _ => ?_
  refine bind (mapM fun app _ => ?_) fun _ _ => bind undisturbed_elements fun codePaths _ => ?_
  · refine bind undisturbed_required fun ebin _ => bind undisturbed_asPath fun p _ => ?_
    refine bind undisturbed_expandHome fun _ _ => bind undisturbed_required fun name _ => ?_
    split
    · exact bind undisturbed_elements fun _ _ => ok _
    · exact bind (ok _) fun _ _ => ok _
  · exact bind (mapM fun _ _ => bind undisturbed_pathOf fun _ _ => ok _) fun _ _ => ok _

theorem undisturbed_job {σ : Type} {backend : Backend σ} {settings : Settings} {project : Project}
    {runtime : OtpRuntime} : Undisturbed (Job.of host backend settings project runtime) := by
  have get {d : Directory} : Undisturbed d.get := by
    cases d
    · exact ok _
    · exact error nofun
  have resolved {keyword : String} {usual : Directory} {location : PltLocation} :
      Undisturbed (location.resolve host keyword usual) := by
    unfold PltLocation.resolve
    split
    · split
      · exact get
      · exact undisturbed_expandHome
    · exact bind get fun _ _ => undisturbed_expandHome
  refine bind (bind resolved fun _ _ => ok _) fun plt _ => bind (bind resolved fun _ _ => ok _) fun basePlt _ => ?_
  exact bind get fun _ _ => bind undisturbed_elements fun _ _ => ok _

end

/-! ## Messages and logs -/

namespace Console

variable {body : List Char}

theorem undisturbed_canonicalName : Undisturbed (Style.canonicalName body) := by
  unfold Style.canonicalName
  split
  · exact ok _
  · exact ok _
  · exact OnlyFails.error nofun

theorem undisturbed_checkApplied : Undisturbed (Style.checkApplied body) := by
  unfold Style.checkApplied
  split
  · exact OnlyFails.error nofun
  · exact ok _

theorem undisturbed_check (tag : OpenTag) : Undisturbed tag.check := by
  unfold OpenTag.check
  split
  · dsimp only
    split
    · exact ok _
    · exact OnlyFails.error nofun
  · exact ok _

theorem undisturbed_closing {opened : List OpenTag} {name : List Char} {start : Nat} :
    Undisturbed (closing opened name start body) := by
  unfold closing
  split
  · split
    · exact ok _
    · exact OnlyFails.error nofun
  · refine bind undisturbed_canonicalName fun name _ => ?_
    split
    · exact ok _
    · exact OnlyFails.error nofun

theorem undisturbed_render {screen : Screen} {s : List Char} : Undisturbed (render screen s) := by
  refine foldlM (fun r part => ?_) _
  cases part with
  | plain text => exact ok _
  | tag start body =>
    show Undisturbed (r.applyTag start body)
    unfold Rendering.applyTag
    split
    · exact bind undisturbed_closing fun _ _ => bind (undisturbed_check _) fun _ _ => ok _
    · exact bind undisturbed_canonicalName fun _ _ => ok _

theorem undisturbed_message {screen : Screen} {s : String} : Undisturbed (message screen s) := by
  refine bind undisturbed_render fun r _ => bind ?_ fun _ _ => ok _
  exact forM fun span => undisturbed_checkApplied

end Console

theorem undisturbed_addDirectory {sinks : Log.Sinks} {now : String} {lowest : Except Failure Nat}
    (known : Undisturbed lowest) : Undisturbed (sinks.addDirectory cwd now p lowest t).1 := by
  have named : Undisturbed (Log.Sinks.directoryFile cwd now p) := by
    refine bind (restated fun fault => ?_) fun _ _ => ok _
    cases fault <;> exact nofun
  have made {file : Path} {t : FileTree} : Undisturbed (Log.Sinks.makeFile cwd file t).1 := by
    unfold Log.Sinks.makeFile
    split
    · rename_i refused
      exact error (FileTree.undisturbed_makeDirs _ (by rw [refused]))
    · split
      · exact ok _
      · rename_i refused
        exact error (FileTree.undisturbed_modify _ refused)
  unfold Log.Sinks.addDirectory
  split
  · rename_i refused
    exact error (FileTree.undisturbed_makeDirs _ (by rw [refused]))
  · rename_i refused
    exact error (named _ refused)
  · split
    · rename_i refused
      exact error (made _ (by rw [refused]))
    · cases lowest with
      | ok n => exact ok _
      | error e => exact error (known e rfl)

end PltKeeper
