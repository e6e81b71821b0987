import PltKeeper.Proofs.Backend.Mirrors
import PltKeeper.Proofs.Run.Abreast

/-! A run and its mirror: the same run on another backend, which does the same as the first one as far
as the keeper can tell. All of the two sessions but the backends' own states is then the same at any
moment, and so are the outcomes. -/
namespace PltKeeper

variable {σ τ : Type} {states : σ → τ → Prop} {s : Session σ} {r : Session τ}

open Act

/-- A session with a backend in another state. -/
def Session.on (s : Session σ) (state : τ) : Session τ where
  tree := s.tree
  backend := state
  searchPath := s.searchPath
  log := s.log
  console := s.console
  requests := s.requests
  phases := s.phases
  total := s.total

/-- Two sessions that are the same but for the states of their backends. -/
def Session.Alike (states : σ → τ → Prop) (s : Session σ) (r : Session τ) : Prop :=
  ∃ state, states s.backend state ∧ r = s.on state

/-- The tie of sessions that are alike. -/
def Tie.alike (states : σ → τ → Prop) : Tie σ τ where
  holds := Session.Alike states
  trees := Eq
  counts := Eq

theorem Tie.alike_lasting (states : σ → τ → Prop) (cwd : String) (plts : List Path) :
    (Tie.alike states).Lasting cwd plts := by
  refine Tie.lasting_of_eq rfl rfl ?tree ?logged ?moved cwd plts
  case tree =>
    rintro s _ ⟨state, _, rfl⟩
    rfl
  case logged =>
    rintro s _ records ⟨state, tied, rfl⟩
    exact ⟨state, tied, rfl⟩
  case moved =>
    rintro s _ t ⟨state, tied, rfl⟩
    exact ⟨state, tied, rfl⟩

/-- What comes of two actions whose sessions stay alike. -/
theorem Act.SideBySide.alike {α : Type} {act : Act σ α} {other : Act τ α}
    (both : SideBySide (Tie.alike states) act other s r fun a b s' r' => a = b ∧ Session.Alike states s' r') :
    (∃ a s' r', act s = .ok a s' ∧ other r = .ok a r' ∧ Session.Alike states s' r') ∨
      ∃ e s' r', act s = .error e s' ∧ other r = .error e r' ∧ Session.Alike states s' r' := by
  cases both with
  | ended ran ran' holds =>
    obtain ⟨rfl, alike⟩ := holds
    exact .inl ⟨_, _, _, ran, ran', alike⟩
  | stopped failed failed' alike => exact .inr ⟨_, _, _, failed, failed', alike⟩
  | lost _ gone => exact gone.elim
  | lost' _ gone => exact gone.elim

/-- A search path is put in front and taken back on both sides. -/
theorem Act.sideBySide_withSearchPath {α : Type} {act : Act σ α} {other : Act τ α} {paths : List Path}
    (alike : Session.Alike states s r)
    (both : SideBySide (Tie.alike states) act other { s with searchPath := paths ++ s.searchPath }
      { r with searchPath := paths ++ r.searchPath } fun a b s' r' => a = b ∧ Session.Alike states s' r') :
    SideBySide (Tie.alike states) (withSearchPath paths act) (withSearchPath paths other) s r
      fun a b s' r' => a = b ∧ Session.Alike states s' r' := by
  obtain ⟨state, _, rfl⟩ := alike
  cases both with
  | ended ran ran' holds =>
    obtain ⟨rfl, state', tied', rfl⟩ := holds
    exact .ended (withSearchPath_eq_ok ran) (withSearchPath_eq_ok ran') ⟨rfl, state', tied', rfl⟩
  | stopped failed failed' alike =>
    obtain ⟨state', tied', rfl⟩ := alike
    exact .stopped (withSearchPath_eq_error failed) (withSearchPath_eq_error failed') ⟨state', tied', rfl⟩
  | lost _ gone => exact gone.elim
  | lost' _ gone => exact gone.elim

/-! ## Phases -/

namespace Keeper

variable {k : Keeper σ} {b : Backend τ} {plts : List Path} {plt : Path}
  {same : Options → List Diagnostic → List Diagnostic → Prop}

/-- The same keeper with another backend. -/
def on (k : Keeper σ) (b : Backend τ) : Keeper τ where
  backend := b
  cwd := k.cwd
  wishes := k.wishes
  output := k.output
  stops? := k.stops?

/-- The difference between two lists of diagnostics is none for a keeper, since it drops both. -/
def Disregards (k : Keeper σ) (same : Options → List Diagnostic → List Diagnostic → Prop) : Prop :=
  ∀ a files plt ds ds', same (k.wishes.optionsFor a files plt) ds ds' →
    delivered (k.wishes.optionsFor a files plt) ds = delivered (k.wishes.optionsFor a files plt) ds'

theorem sideBySide_report (k : Keeper σ) (b : Backend τ) (ds : List Diagnostic)
    (alike : Session.Alike states s r) :
    SideBySide (Tie.alike states) (k.report ds) ((k.on b).report ds) s r (Tie.alike states).Returns := by
  obtain ⟨state, tied, rfl⟩ := alike
  have count : ∀ {s' : Session σ} {r' : Session τ}, Session.Alike states s' r' →
      Session.Alike states { s' with total := s'.total + (ds.map Diagnostic.reported).length }
        { r' with total := r'.total + (ds.map Diagnostic.reported).length } := by
    rintro s' _ ⟨state, tied, rfl⟩
    exact ⟨state, tied, rfl⟩
  unfold report
  refine (sideBySide_modify (.alike states) ⟨state, tied, rfl⟩).bind ?_
  rintro _ _ s₁ _ ⟨state, tied, rfl⟩
  simp only
  split
  · have filed : SideBySide (Tie.alike states)
        (Act.changePartly (k.filing ds)) (Act.changePartly (k.filing ds))
        s₁ (s₁.on state) fun _ _ s' r' => Session.Alike states s' r' := by
      rcases came : k.filing ds s₁.tree with ⟨e | done, t⟩
      · exact .stopped (changePartly_of_error came) (changePartly_of_error came) ⟨state, tied, rfl⟩
      · exact .ended (changePartly_of_ok came) (changePartly_of_ok came) ⟨state, tied, rfl⟩
    refine (filed.restate _).bind fun _ _ s₂ r₂ alike => ?_
    refine SideBySide.bind (sideBySide_modify (.alike states) ?_) fun _ _ _ _ alike => .pure ⟨rfl, alike⟩
    exact count alike
  · refine SideBySide.bind (sideBySide_modify (.alike states) ?_) fun _ _ _ _ alike => .pure ⟨rfl, alike⟩
    exact count ⟨state, tied, rfl⟩

section
variable (mirrors : k.backend.Mirrors b states Eq plts same) (disregards : k.Disregards same)
  (member : plt ∈ plts) (alike : Session.Alike states s r)
include mirrors member alike

theorem sideBySide_read :
    SideBySide (Tie.alike states) (k.read plt) ((k.on b).read plt) s r
      fun answer answer' s' r' => answer = answer' ∧ Session.Alike states s' r' := by
  obtain ⟨state, tied, rfl⟩ := alike
  have like := mirrors.query plt member s.tree s.backend state rfl tied
  have answered : Session.Alike states (answered s (.query plt) (k.backend.query plt s.tree s.backend))
      (answered (s.on state) (.query plt) (b.query plt s.tree state)) :=
    ⟨_, like.state, by simp only [answered, Session.on, like.tree.1]⟩
  have accepted : SideBySide (Tie.alike states) (k.read plt) ((k.on b).read plt) s (s.on state) _ :=
    (sideBySide_accept like answered).congr rfl rfl
  refine accepted.mono ?_
  rintro answer _ _ _ ⟨rfl, rfl, rfl⟩
  exact ⟨rfl, answered⟩

include disregards

/-- A phase is the same phase on the mirror. -/
theorem sideBySide_runPhase (a : Analysis) (files : List String) :
    SideBySide (Tie.alike states) (k.runPhase a plt files) ((k.on b).runPhase a plt files) s r
      (Tie.alike states).Returns := by
  refine runPhase_abreast ?_ files ?_ ?_ ?_ ?_ ?_ ?_ ?_
  · exact rfl
  · exact rfl
  · exact alike
  · obtain ⟨state, tied, rfl⟩ := alike
    let given := (FileSet.of k.cwd files).toList
    let options := k.wishes.optionsFor a given plt
    have like := mirrors.analyze options s.tree s.tree s.backend state (within_optionsFor _ member a given)
      rfl tied
    have answered : Session.Alike states
        (answered s (.analyze options) (k.backend.analyze options s.tree s.backend))
        (answered (s.on state) (.analyze options) (b.analyze options s.tree state)) :=
      ⟨_, like.state, by simp only [answered, Session.on, like.tree]⟩
    refine sideBySide_told (SideBySide.bind (sideBySide_accept like answered) ?_)
    rintro ds ds' _ _ ⟨told, rfl, rfl⟩
    have heard : delivered options ds' = delivered options ds := (disregards a given plt ds ds' told).symm
    show SideBySide _ (k.report (delivered options ds)) ((k.on b).report (delivered options ds')) _ _ _
    rw [heard]
    exact sideBySide_report k b _ answered
  · rintro phase m _ s' _ ⟨rfl, state, tied, rfl⟩
    exact ⟨state, tied, rfl⟩
  · rintro phase s' _ ⟨state, tied, rfl⟩
    exact ⟨state, tied, rfl⟩
  · exact fun gone => gone
  · exact fun gone => gone

end

/-- A report begins alike. -/
theorem sideBySide_beginReport (k : Keeper σ) (b : Backend τ) (alike : Session.Alike states s r) :
    SideBySide (Tie.alike states) k.beginReport (k.on b).beginReport s r
      fun output output' s' r' => output = output' ∧ Session.Alike states s' r' := by
  have lasts := Tie.alike_lasting states k.cwd []
  unfold beginReport
  refine SideBySide.bind (SideBySide.restate ?_ _) fun _ _ _ _ alike => .pure ⟨rfl, alike⟩
  refine (sideBySide_makeDirs lasts alike k.output.parent).bind ?_
  rintro _ _ s₁ _ ⟨state, tied, rfl⟩
  show SideBySide _ _ _ _ _ fun _ _ s' r' => Session.Alike states s' r'
  cases written : s₁.tree.write k.cwd k.output [] with
  | ok t => exact .ended (change_of_ok written) (change_of_ok written) ⟨state, tied, rfl⟩
  | error e => exact .stopped (change_of_error written) (change_of_error written) ⟨state, tied, rfl⟩

end Keeper

/-! ## Runs -/

namespace Job

variable {j : Job σ} {b : Backend τ} {same : Options → List Diagnostic → List Diagnostic → Prop}

/-- The same run on another backend. -/
def on (j : Job σ) (b : Backend τ) : Job τ where
  keeper := j.keeper.on b
  settings := j.settings
  project := j.project
  plt := j.plt
  basePlt := j.basePlt
  libRoot := j.libRoot

/-- A run is made in the same way for every backend. -/
theorem of_on {host : Host} {backend : Backend σ} {settings : Settings} {project : Project}
    {runtime : OtpRuntime} (made : Job.of host backend settings project runtime = .ok j) (b : Backend τ) :
    Job.of host b settings project runtime = .ok (j.on b) := by
  obtain ⟨plt, basePlt, directory, warnings, placed, basePlaced, based, listed, rfl⟩ := of_eq_ok_iff.mp made
  exact of_eq_ok_iff.mpr ⟨plt, basePlt, directory, warnings, placed, basePlaced, based, listed, rfl⟩

section
variable (mirrors : j.keeper.backend.Mirrors b states Eq j.plts same) (disregards : j.keeper.Disregards same)
include mirrors disregards

theorem abreast_on : j.Abreast (Tie.alike states) (Session.Alike states) (j.on b) where
  keeper := ⟨rfl, Tie.alike_lasting _ _ _, fun a _ _ member files _ _ alike =>
    Keeper.sideBySide_runPhase mirrors disregards member alike a files⟩
  plt := rfl
  basePlt := rfl
  libRoot := rfl
  project := rfl
  requiredApps := rfl
  baseApps := rfl
  updating := rfl
  tied alike := alike
  logged records alike := (Tie.alike_lasting states "" []).logged records alike
  tree alike := ((Tie.alike_lasting states "" []).tree alike).symm
  searchPath := by
    rintro s _ ⟨state, tied, rfl⟩
    rfl
  read alike _ member := Keeper.sideBySide_read mirrors member alike

theorem typesAbreast_on : j.TypesAbreast (Tie.alike states) (j.on b) where
  typing := rfl
  own := by
    rintro s _ ⟨state, tied, rfl⟩
    rfl
  phase files alike := Keeper.sideBySide_runPhase mirrors disregards j.plt_mem alike .successTyping files

theorem steps_on (alike : Session.Alike states s r) :
    SideBySide (Tie.alike states) j.steps (j.on b).steps s r (Tie.alike states).Returns := by
  refine (Keeper.sideBySide_beginReport j.keeper b alike).bind ?_
  rintro output _ s₁ r₁ ⟨-, alike⟩
  exact work_abreast (abreast_on mirrors disregards) (typesAbreast_on mirrors disregards) alike

theorem guarded_on (alike : Session.Alike states s r) :
    SideBySide (Tie.alike states) j.guarded (j.on b).guarded s r
      fun result result' s' r' => result = result' ∧ Session.Alike states s' r' := by
  have same : ∀ e, (j.on b).stopping? e = j.stopping? e := fun _ => rfl
  cases steps_on mirrors disregards alike with
  | @ended n _ s' r' ran ran' returns =>
    obtain ⟨rfl, alike⟩ := returns
    exact .ended (a := .ok n) (b := .ok n) (by simp only [guarded, ran]) (by simp only [guarded, ran'])
      ⟨rfl, alike⟩
  | @stopped e s' r' failed failed' alike =>
    cases reported : j.stopping? e with
    | some stop =>
      exact .ended (a := .error stop) (b := .error stop) (by simp only [guarded, failed, reported])
        (by simp only [guarded, failed', same, reported]) ⟨rfl, alike⟩
    | none =>
      exact .stopped (e := e) (by simp only [guarded, failed, reported])
        (by simp only [guarded, failed', same, reported]) alike
  | lost _ gone => exact gone.elim
  | lost' _ gone => exact gone.elim

/-- A run and its mirror have the same outcome, or the same failure, and leave sessions that are
alike. -/
theorem run_on (alike : Session.Alike states s r) :
    SideBySide (Tie.alike states) j.run (j.on b).run s r
      fun o o' s' r' => o = o' ∧ Session.Alike states s' r' := by
  have lasts := Tie.alike_lasting states j.keeper.cwd []
  rw [run_eq, run_eq]
  refine (sideBySide_info lasts alike _).bind fun _ _ s₁ r₁ alike => ?_
  have searching : Session.Alike states { s₁ with searchPath := j.project.codePaths ++ s₁.searchPath }
      { r₁ with searchPath := j.project.codePaths ++ r₁.searchPath } := by
    obtain ⟨state, tied, rfl⟩ := alike
    exact ⟨state, tied, rfl⟩
  refine (sideBySide_withSearchPath alike (guarded_on mirrors disregards searching)).bind ?_
  rintro result _ s₂ _ ⟨rfl, state, tied, rfl⟩
  cases result with
  | error e => exact .ended rfl rfl ⟨rfl, state, tied, rfl⟩
  | ok warnings =>
    simp only
    split
    · exact .ended rfl rfl ⟨rfl, state, tied, rfl⟩
    · exact .ended rfl rfl ⟨rfl, state, tied, rfl⟩

end

end Job

end PltKeeper
