import PltKeeper.Proofs.Plt.Upkeep

/-! How a run ends, told from how its steps end. The steps begin in the session that has the search
path of the project; whatever they leave is handed back under the search path from before. A run is
not failed just where its steps came through. -/
namespace PltKeeper

variable {σ : Type}

/-- The second session is the first one but for its search path and for what has been logged. -/
def Session.HandedOn (s s' : Session σ) : Prop :=
  ∃ path log, s' = { s with searchPath := path, log := log }

theorem Act.withSearchPath_eq_ok {α : Type} {paths : List Path} {act : Act σ α} {s s' : Session σ} {a : α}
    (ran : act { s with searchPath := paths ++ s.searchPath } = .ok a s') :
    Act.withSearchPath paths act s = .ok a { s' with searchPath := s.searchPath } := by
  unfold Act.withSearchPath
  rw [ran]

theorem Act.withSearchPath_eq_error {α : Type} {paths : List Path} {act : Act σ α} {s s' : Session σ}
    {e : Failure} (ran : act { s with searchPath := paths ++ s.searchPath } = .error e s') :
    Act.withSearchPath paths act s = .error e { s' with searchPath := s.searchPath } := by
  unfold Act.withSearchPath
  rw [ran]

namespace Job

variable (j : Job σ)

/-- The session in which the steps of a run begin. -/
def opened (s : Session σ) : Session σ :=
  { s with
    searchPath := j.project.codePaths ++ s.searchPath
    log := s.log ++ [⟨.info, "Dialyzer starting, this may take a while..."⟩] }

/-- The report of a run from the first session has begun in the second one. -/
def Begins (s s₁ : Session σ) : Prop := ∃ output, j.keeper.beginReport (j.opened s) = .ok output s₁

/-- How a run from a session ends. -/
inductive Ended (s : Session σ) : Prop
  | completed {n : Nat} {s' s'' : Session σ} (ran : j.steps (j.opened s) = .ok n s')
      (handedOn : s'.HandedOn s'') (outcome : j.run s = .ok (j.completed n s'') s'')
  | stopped {e : Failure} {stop : ToolError} {s' s'' : Session σ}
      (ran : j.steps (j.opened s) = .error e s') (handedOn : s'.HandedOn s'')
      (outcome : j.run s = .ok (j.failed stop s'') s'')
  | escaped {e : Failure} {s' s'' : Session σ} (ran : j.steps (j.opened s) = .error e s')
      (handedOn : s'.HandedOn s'') (failure : j.run s = .error e s'')

/-- The steps, with the failures that a run takes for outcomes among the results. -/
def guarded : Act σ (Except ToolError Nat) := fun s =>
  match j.steps s with
  | .ok n s => .ok (.ok n) s
  | .error e s =>
    match j.stopping? e with
    | some stop => .ok (.error stop) s
    | none => .error e s

theorem run_eq : j.run = (do
    Act.info "Dialyzer starting, this may take a while..."
    match ← Act.withSearchPath j.project.codePaths j.guarded with
    | .error e => return j.failed e (← get)
    | .ok warnings =>
      if warnings ≠ 0 then Act.info s!"Warnings written to {j.keeper.output}"
      return j.completed warnings (← get) : Act σ Outcome) := rfl

/-- A run whose guarded steps have a result goes on with it, under the search path from before. -/
theorem run_of_result {s s' : Session σ} {result : Except ToolError Nat}
    (ran : j.guarded (j.opened s) = .ok result s') :
    j.run s = (match result with
      | .error e => do return j.failed e (← get)
      | .ok warnings => do
        if warnings ≠ 0 then Act.info s!"Warnings written to {j.keeper.output}"
        return j.completed warnings (← get) : Act σ Outcome) { s' with searchPath := s.searchPath } := by
  have logged := @Act.withSearchPath_eq_ok σ _ j.project.codePaths j.guarded
    { s with log := s.log ++ [⟨.info, "Dialyzer starting, this may take a while..."⟩] } s' result ran
  rw [run_eq]
  cases result <;> simp [bind, EStateM.bind, Act.info_eq_ok, logged]

theorem run_of_failure {s s' : Session σ} {e : Failure}
    (ran : j.guarded (j.opened s) = .error e s') :
    j.run s = .error e { s' with searchPath := s.searchPath } := by
  have logged := @Act.withSearchPath_eq_error σ _ j.project.codePaths j.guarded
    { s with log := s.log ++ [⟨.info, "Dialyzer starting, this may take a while..."⟩] } s' e ran
  rw [run_eq]
  simp [bind, EStateM.bind, Act.info_eq_ok, logged]

section
variable {j} {s s' : Session σ}

/-- A run whose steps come through is completed. -/
theorem run_of_completed {n : Nat} (ran : j.steps (j.opened s) = .ok n s') :
    ∃ s'', s'.HandedOn s'' ∧ j.run s = .ok (j.completed n s'') s'' := by
  have inner : j.guarded (j.opened s) = .ok (.ok n) s' := by simp only [guarded, ran]
  have whole := j.run_of_result inner
  by_cases none : n = 0
  · subst none
    exact ⟨_, ⟨s.searchPath, s'.log, rfl⟩, whole⟩
  · simp only [ne_eq, none, not_false_eq_true, if_true] at whole
    exact ⟨_, ⟨s.searchPath, _, rfl⟩, whole⟩

/-- A failure that a run takes for its outcome. -/
theorem run_of_stopped {e : Failure} {stop : ToolError} (failed : j.steps (j.opened s) = .error e s')
    (reported : j.stopping? e = some stop) :
    ∃ s'', s'.HandedOn s'' ∧ j.run s = .ok (j.failed stop s'') s'' := by
  have inner : j.guarded (j.opened s) = .ok (.error stop) s' := by simp only [guarded, failed, reported]
  exact ⟨_, ⟨s.searchPath, s'.log, rfl⟩, j.run_of_result inner⟩

/-- A failure that escapes a run. -/
theorem run_of_escaped {e : Failure} (failed : j.steps (j.opened s) = .error e s')
    (unreported : j.stopping? e = none) : ∃ s'', s'.HandedOn s'' ∧ j.run s = .error e s'' := by
  have inner : j.guarded (j.opened s) = .error e s' := by simp only [guarded, failed, unreported]
  exact ⟨_, ⟨s.searchPath, s'.log, rfl⟩, j.run_of_failure inner⟩

end

theorem ended (s : Session σ) : j.Ended s := by
  cases ran : j.steps (j.opened s) with
  | ok n s' =>
    obtain ⟨s'', handedOn, outcome⟩ := run_of_completed ran
    exact .completed ran handedOn outcome
  | error e s' =>
    cases reported : j.stopping? e with
    | some stop =>
      obtain ⟨s'', handedOn, outcome⟩ := run_of_stopped ran reported
      exact .stopped ran handedOn outcome
    | none =>
      obtain ⟨s'', handedOn, failure⟩ := run_of_escaped ran reported
      exact .escaped ran handedOn failure

/-- A run that returns without having failed is one whose steps came through. -/
theorem steps_of_not_failed {s s' : Session σ} {o : Outcome} (ran : j.run s = .ok o s')
    (notFailed : o.status ≠ .failed) :
    ∃ n s₃, j.steps (j.opened s) = .ok n s₃ ∧ s₃.HandedOn s' ∧ o = j.completed n s' := by
  cases j.ended s with
  | completed steps handedOn outcome =>
    rw [outcome] at ran
    cases ran
    exact ⟨_, _, steps, handedOn, rfl⟩
  | stopped _ _ outcome =>
    rw [outcome] at ran
    cases ran
    exact absurd rfl notFailed
  | escaped _ _ failure =>
    rw [failure] at ran
    cases ran

/-- What a run leaves is what its steps leave, handed on. -/
theorem after_run (s : Session σ) : ((j.steps).after (j.opened s)).HandedOn (j.run.after s) := by
  unfold Act.after
  cases j.ended s with
  | completed ran handedOn outcome =>
    rw [ran, outcome]
    exact handedOn
  | stopped ran handedOn outcome =>
    rw [ran, outcome]
    exact handedOn
  | escaped ran handedOn failure =>
    rw [ran, failure]
    exact handedOn

theorem completed_ne_failed (n : Nat) (s : Session σ) : (j.completed n s).status ≠ .failed := by
  unfold completed
  split <;> simp

theorem completed_phases (n : Nat) (s : Session σ) : (j.completed n s).phases = s.phases := by
  unfold completed
  split <;> rfl

/-- The steps that came through, one by one. -/
theorem steps_eq_ok {s s₃ : Session σ} {n : Nat} (ran : j.steps s = .ok n s₃) :
    ∃ output s₁ maintenance s₂ analysis, j.keeper.beginReport s = .ok output s₁ ∧
      j.updateProject s₁ = .ok maintenance s₂ ∧ j.successTyping s₂ = .ok analysis s₃ ∧
      n = maintenance + analysis := by
  obtain ⟨output, s₁, begun, ran⟩ := Act.bind_eq_ok ran
  obtain ⟨maintenance, s₂, updated, ran⟩ := Act.bind_eq_ok ran
  obtain ⟨analysis, s, analysed, ran⟩ := Act.bind_eq_ok ran
  cases ran
  exact ⟨output, s₁, maintenance, s₂, analysis, begun, updated, analysed, rfl⟩

/-- Makes a job, carries it out and tests what it leaves. -/
def checkRun (made : Except Failure (Job σ)) (s : Session σ)
    (test : Job σ → Outcome → Session σ → Bool) : Bool :=
  match made with
  | .error _ => false
  | .ok j => j.run.check s (test j)

theorem of_checkRun {made : Except Failure (Job σ)} {s : Session σ}
    {test : Job σ → Outcome → Session σ → Bool} (passed : checkRun made s test = true) :
    ∃ j o s', made = .ok j ∧ j.run s = .ok o s' ∧ test j o s' = true := by
  unfold checkRun at passed
  cases made with
  | error e => cases passed
  | ok j =>
    obtain ⟨o, s', ran, passed⟩ := Act.of_check passed
    exact ⟨j, o, s', rfl, ran, passed⟩

end Job

/-! ## The beginning of a report -/

namespace Keeper

variable {k : Keeper σ} {format : PltFormat} {plts : List Path}

/-- As far as PLTs are concerned, a report that begins, or fails to, asks nothing and has made
directories. -/
theorem beginReport_ends (keeps : k.Keeps format plts) (s : Session σ) :
    k.beginReport.Ensures s
      (fun _ s' => s.Follows s' [] ∧
        FileTree.SamePlts format k.cwd plts (s.tree.makeDirs k.cwd k.output.parent).2 s'.tree)
      fun _ s' => s.Follows s' [] ∧
        FileTree.SamePlts format k.cwd plts (s.tree.makeDirs k.cwd k.output.parent).2 s'.tree := by
  have madeDirs : s.Follows { s with tree := (s.tree.makeDirs k.cwd k.output.parent).2 } [] :=
    ⟨rfl, by simp, fun formed => formed.makeDirs k.cwd k.output.parent⟩
  refine ensures_beginReport ?_ fun _ => ⟨madeDirs, .refl _⟩
  intro t written
  refine ⟨⟨rfl, by simp, ?_⟩, keeps.samePlts_modify written⟩
  exact fun formed => (formed.makeDirs k.cwd k.output.parent).modify written

end Keeper

/-- The PLTs of a run. -/
def Job.plts (j : Job σ) : List Path := [j.plt, j.basePlt]

theorem Job.plt_mem (j : Job σ) : j.plt ∈ j.plts := List.mem_cons_self

theorem Job.basePlt_mem (j : Job σ) : j.basePlt ∈ j.plts := List.mem_cons_of_mem _ List.mem_cons_self

theorem Job.mem_plts {j : Job σ} {plt : Path} : plt ∈ j.plts ↔ plt = j.plt ∨ plt = j.basePlt := by
  simp [plts]

/-- The warnings file of a run is at no PLT's place. -/
theorem Job.apart_of {host : Host} {backend : Backend σ} {settings : Settings} {project : Project}
    {runtime : OtpRuntime} {j : Job σ} (made : Job.of host backend settings project runtime = .ok j) :
    ∀ plt ∈ j.plts, ∀ t : FileTree, ¬ t.SameFile j.keeper.cwd plt j.keeper.output := by
  have placed := Job.of_placed made
  intro plt member t
  rcases Job.mem_plts.mp member with rfl | rfl
  · exact FileTree.not_sameFile_of_endings placed.plt placed.output
  · exact FileTree.not_sameFile_of_endings placed.basePlt placed.output

/-- What a run needs to keep PLTs: that its directory is absolute and its backend works on sets. -/
theorem Job.keeps_of {host : Host} {backend : Backend σ} {settings : Settings} {project : Project}
    {runtime : OtpRuntime} {j : Job σ} {format : PltFormat}
    (made : Job.of host backend settings project runtime = .ok j) (rooted : Path.Rooted host.cwd)
    (semantics : backend.SetSemantics format host.cwd j.plts) : j.keeper.Keeps format j.plts := by
  obtain ⟨_, _, _, same, directory, _⟩ := Job.of_eq_ok made
  rw [← directory] at rooted semantics
  rw [← same] at semantics
  exact ⟨rooted, semantics, Job.apart_of made⟩

end PltKeeper
