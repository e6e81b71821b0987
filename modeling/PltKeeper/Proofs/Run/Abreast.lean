import PltKeeper.Proofs.Run.Accounting
import PltKeeper.Proofs.SideBySide

/-! Two runs abreast. If two keepers go through each phase side by side, they go side by side through
every sync and every build, and their runs through the whole maintenance: the steps between the phases
look at the tree and at the answers to questions, and at no warnings. What holds of one phase is thus
all that has to be shown of two runs. -/
namespace PltKeeper

variable {σ τ : Type} {tie : Tie σ τ} {s : Session σ} {r : Session τ}

open Act

namespace Keeper

/-- Two keepers that go through each phase of the maintenance side by side. -/
structure Abreast (tie : Tie σ τ) (plts : List Path) (k : Keeper σ) (k' : Keeper τ) : Prop where
  cwd : k'.cwd = k.cwd
  lasts : tie.Lasting k.cwd plts
  phase : ∀ a : Analysis, a.mutatesPlt = true → ∀ plt ∈ plts, ∀ files s r, tie.holds s r →
    SideBySide tie (k.runPhase a plt files) (k'.runPhase a plt files) s r tie.Returns

variable {plts : List Path} {k : Keeper σ} {k' : Keeper τ} {plt : Path}

theorem part_abreast (abreast : k.Abreast tie plts k') (member : plt ∈ plts) {a : Analysis}
    (maintains : a.mutatesPlt = true) (files : FileSet) (message : String) (tied : tie.holds s r) :
    SideBySide tie (k.part a plt files message) (k'.part a plt files message) s r tie.Returns := by
  unfold part
  split
  · exact .pure ⟨abreast.lasts.zero, tied⟩
  · refine (sideBySide_info abreast.lasts tied message).bind fun _ _ s' r' tied => ?_
    exact abreast.phase a maintains plt member files.toList s' r' tied

theorem sync_abreast (abreast : k.Abreast tie plts k') (member : plt ∈ plts) (held required : FileSet)
    (tied : tie.holds s r) :
    SideBySide tie (k.sync plt held required) (k'.sync plt held required) s r tie.Returns := by
  unfold sync
  refine (part_abreast abreast member rfl _ _ tied).bind ?_
  rintro removed removed' s₁ r₁ ⟨first, tied⟩
  refine (part_abreast abreast member rfl _ _ tied).bind ?_
  rintro checked checked' s₂ r₂ ⟨second, tied⟩
  refine (part_abreast abreast member rfl _ _ tied).bind ?_
  rintro added added' s₃ r₃ ⟨third, tied⟩
  exact .pure ⟨abreast.lasts.add (abreast.lasts.add first second) third, tied⟩

theorem build_abreast (abreast : k.Abreast tie plts k') (member : plt ∈ plts) (files : List String)
    (tied : tie.holds s r) :
    SideBySide tie (k.build plt files) (k'.build plt files) s r tie.Returns := by
  unfold build
  rw [abreast.cwd]
  refine ((sideBySide_makeDirs abreast.lasts tied plt.parent).restate _).bind fun _ _ s₁ r₁ tied => ?_
  refine (sideBySide_info abreast.lasts tied _).bind fun _ _ s₂ r₂ tied => ?_
  exact abreast.phase .build rfl plt member _ s₂ r₂ tied

end Keeper

namespace Job

/-- Two runs of which the maintenance goes side by side. Until the first phase they have more in common
than afterwards: enough for the file sets that they resolve and the answers that they get to be the
same. -/
structure Abreast (tie : Tie σ τ) (start : Session σ → Session τ → Prop) (j : Job σ) (i : Job τ) : Prop where
  keeper : j.keeper.Abreast tie j.plts i.keeper
  plt : i.plt = j.plt
  basePlt : i.basePlt = j.basePlt
  libRoot : i.libRoot = j.libRoot
  project : i.project = j.project
  requiredApps : i.requiredApps = j.requiredApps
  baseApps : i.settings.baseApps = j.settings.baseApps
  updating : i.settings.updatePlt.isSet = j.settings.updatePlt.isSet
  tied : ∀ {s r}, start s r → tie.holds s r
  logged : ∀ {s r} (records : List LogRecord), start s r →
    start { s with log := s.log ++ records } { r with log := r.log ++ records }
  tree : ∀ {s r}, start s r → r.tree = s.tree
  searchPath : ∀ {s r}, start s r → r.searchPath = s.searchPath
  read : ∀ {s r}, start s r → ∀ plt ∈ j.plts, SideBySide tie (j.keeper.read plt) (i.keeper.read plt) s r
    fun answer answer' s' r' => answer = answer' ∧ start s' r'

variable {start : Session σ → Session τ → Prop} {j : Job σ} {i : Job τ}

theorem Abreast.resolver (abreast : j.Abreast tie start i) : i.resolver = j.resolver := by
  rw [Job.resolver, Job.resolver, abreast.keeper.cwd, abreast.libRoot]

theorem Abreast.info (abreast : j.Abreast tie start i) (started : start s r) (message : String) :
    SideBySide tie (Act.info message) (Act.info message) s r fun _ _ s' r' => start s' r' :=
  .ended rfl rfl (abreast.logged [⟨.info, message⟩] started)

/-- Names are resolved to the same files. -/
theorem Abreast.resolve (abreast : j.Abreast tie start i) (started : start s r) (names : Json) :
    SideBySide tie (j.resolver.resolve names j.project.apps) (i.resolver.resolve names i.project.apps) s r
      fun files files' s' r' => files = files' ∧ start s' r' := by
  rw [abreast.resolver, abreast.project]
  refine (abreast.info started _).bind fun _ _ s₁ r₁ started => ?_
  have registry : j.resolver.registry r₁ = j.resolver.registry s₁ := by
    rw [Resolver.registry, Resolver.registry, abreast.searchPath started]
  refine (sideBySide_look ?_ (abreast.tied started)).mono ?_
  · rw [registry, abreast.tree started]
  · rintro files _ _ _ ⟨rfl, rfl, rfl⟩
    exact ⟨rfl, started⟩

theorem Abreast.required (abreast : j.Abreast tie start i) (started : start s r) :
    SideBySide tie j.requiredFiles i.requiredFiles s r
      fun files files' s' r' => files = files' ∧ start s' r' := by
  unfold requiredFiles
  rw [abreast.requiredApps]
  cases j.requiredApps with
  | ok names => exact (abreast.resolve started (.arr names)).congr rfl rfl
  | error e => exact .stopped rfl rfl (abreast.tied started)

theorem Abreast.base (abreast : j.Abreast tie start i) (started : start s r) :
    SideBySide tie j.baseFiles i.baseFiles s r fun files files' s' r' => files = files' ∧ start s' r' := by
  unfold baseFiles
  rw [abreast.baseApps]
  exact abreast.resolve started j.settings.baseApps

theorem updateBase_abreast (abreast : j.Abreast tie start i) (files : FileSet) (started : start s r) :
    SideBySide tie (j.updateBase files) (i.updateBase files) s r tie.Returns := by
  unfold updateBase
  rw [abreast.basePlt]
  refine (abreast.read started j.basePlt j.basePlt_mem).bind ?_
  rintro answer _ s₁ r₁ ⟨rfl, started⟩
  have tied := abreast.tied started
  cases answer with
  | none => exact Keeper.build_abreast abreast.keeper j.basePlt_mem files.toList tied
  | some held => exact Keeper.sync_abreast abreast.keeper j.basePlt_mem held files tied

theorem copyBase_abreast (abreast : j.Abreast tie start i) (tied : tie.holds s r) :
    SideBySide tie j.copyBase i.copyBase s r fun _ _ s' r' => tie.holds s' r' := by
  have lasts := abreast.keeper.lasts
  unfold copyBase
  rw [abreast.plt, abreast.basePlt, abreast.keeper.cwd]
  refine (sideBySide_info lasts tied _).bind fun _ _ s₁ r₁ tied => SideBySide.restate ?_ _
  refine (sideBySide_makeDirs lasts tied j.plt.parent).bind fun _ _ s₂ r₂ tied => ?_
  exact sideBySide_copy lasts tied j.basePlt_mem j.plt_mem

theorem makeProjectPlt_abreast (abreast : j.Abreast tie start i) (files : FileSet) (started : start s r) :
    SideBySide tie (j.makeProjectPlt files) (i.makeProjectPlt files) s r tie.Returns := by
  have lasts := abreast.keeper.lasts
  unfold makeProjectPlt
  rw [abreast.plt, abreast.basePlt, abreast.keeper.cwd]
  refine (abreast.info started _).bind fun _ _ s₁ r₁ started => ?_
  refine (abreast.base started).bind ?_
  rintro base _ s₂ r₂ ⟨rfl, started⟩
  refine (updateBase_abreast abreast base started).bind ?_
  rintro warnings warnings' s₃ r₃ ⟨counted, tied⟩
  refine (sideBySide_isFile lasts tied j.basePlt).bind ?_
  rintro there _ s₄ r₄ ⟨rfl, tied⟩
  split
  · refine (copyBase_abreast abreast tied).bind fun _ _ s₅ r₅ tied => ?_
    refine (Keeper.sync_abreast abreast.keeper j.plt_mem base files tied).bind ?_
    rintro more more' s₆ r₆ ⟨countedMore, tied⟩
    exact .pure ⟨lasts.add counted countedMore, tied⟩
  · refine (Keeper.build_abreast abreast.keeper j.plt_mem files.toList tied).bind ?_
    rintro more more' s₅ r₅ ⟨countedMore, tied⟩
    exact .pure ⟨lasts.add counted countedMore, tied⟩

/-- The maintenance of two runs that are abreast. -/
theorem updateProject_abreast (abreast : j.Abreast tie start i) (started : start s r) :
    SideBySide tie j.updateProject i.updateProject s r tie.Returns := by
  unfold updateProject
  rw [abreast.plt, abreast.updating]
  split
  · exact .pure ⟨abreast.keeper.lasts.zero, abreast.tied started⟩
  refine (abreast.info started _).bind fun _ _ s₁ r₁ started => ?_
  refine (abreast.required started).bind ?_
  rintro files _ s₂ r₂ ⟨rfl, started⟩
  refine (abreast.read started j.plt j.plt_mem).bind ?_
  rintro answer _ s₃ r₃ ⟨rfl, started⟩
  cases answer with
  | none => exact makeProjectPlt_abreast abreast files started
  | some held => exact Keeper.sync_abreast abreast.keeper j.plt_mem held files (abreast.tied started)

/-- Two runs of which the success typing goes side by side, too. -/
structure TypesAbreast (tie : Tie σ τ) (j : Job σ) (i : Job τ) : Prop where
  typing : i.settings.succTypings.isSet = j.settings.succTypings.isSet
  own : ∀ {s r}, tie.holds s r → Manifest.projectFiles j.keeper.cwd r.tree j.project.apps =
    Manifest.projectFiles j.keeper.cwd s.tree j.project.apps
  phase : ∀ {s r} files, tie.holds s r →
    SideBySide tie (j.keeper.runPhase .successTyping j.plt files) (i.keeper.runPhase .successTyping j.plt files)
      s r tie.Returns

/-- All that two runs do once their reports have begun. -/
theorem work_abreast (abreast : j.Abreast tie start i) (types : j.TypesAbreast tie i) (started : start s r) :
    SideBySide tie j.work i.work s r tie.Returns := by
  have lasts := abreast.keeper.lasts
  unfold work
  refine (updateProject_abreast abreast started).bind ?_
  rintro maintenance maintenance' s₁ r₁ ⟨counted, tied⟩
  have typed : SideBySide tie j.successTyping i.successTyping s₁ r₁ tie.Returns := by
    unfold successTyping ownFiles
    rw [types.typing, abreast.plt, abreast.resolver, abreast.project]
    split
    · exact .pure ⟨lasts.zero, tied⟩
    refine (sideBySide_info lasts tied _).bind fun _ _ s₂ r₂ tied => ?_
    have resolved : SideBySide tie (j.resolver.ownFiles j.project.apps) (j.resolver.ownFiles j.project.apps)
        s₂ r₂ fun files files' s' r' => files = files' ∧ tie.holds s' r' := by
      refine (sideBySide_info lasts tied _).bind fun _ _ s₃ r₃ tied => ?_
      refine (sideBySide_look (types.own tied) tied).mono ?_
      rintro files _ _ _ ⟨rfl, rfl, rfl⟩
      exact ⟨rfl, tied⟩
    refine resolved.bind ?_
    rintro files _ s₃ r₃ ⟨rfl, tied⟩
    refine (sideBySide_info lasts tied _).bind fun _ _ s₄ r₄ tied => ?_
    exact types.phase files.toList tied
  refine typed.bind ?_
  rintro analysis analysis' s₂ r₂ ⟨countedMore, tied⟩
  exact .pure ⟨lasts.add counted countedMore, tied⟩

end Job

end PltKeeper
