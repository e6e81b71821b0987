import PltKeeper.Proofs.Run.Untouched

/-! What a run asks of its backend: just what is planned once its report has begun, in this order; and
a first part of it, if the run stops. -/
namespace PltKeeper.Job

variable {σ : Type} {host : Host} {backend : Backend σ} {settings : Settings} {project : Project}
  {runtime : OtpRuntime} {j : Job σ} {format : PltFormat} {s s₁ s₂ : Session σ}

/-- The files of the project's own applications, as they are when its PLT has been brought up to
date. -/
def ownAfterUpdate (j : Job σ) (s₁ : Session σ) : FileSet :=
  match j.updateProject s₁ with
  | .ok _ s₂ => j.ownFiles.resolved s₂
  | .error _ _ => ∅

/-- All requests of a run, from the session in which its report has begun. -/
def plannedFrom (j : Job σ) (format : PltFormat) (s₁ : Session σ) : List Request :=
  j.plannedUpdate (j.situation format s₁) ++ j.plannedTyping (j.ownAfterUpdate s₁)

/-- All requests of a run. A report that cannot begin is followed by none. -/
def planned (j : Job σ) (format : PltFormat) (s : Session σ) : List Request :=
  match j.keeper.beginReport (j.opened s) with
  | .ok _ s₁ => j.plannedFrom format s₁
  | .error _ _ => []

theorem updateProject_asks (keeps : j.keeper.Keeps format j.plts) (s : Session σ) :
    j.updateProject.Ensures s (fun _ s' => s.Follows s' (j.plannedUpdate (j.situation format s)))
      fun _ s' => s.Stops s' (j.plannedUpdate (j.situation format s)) := by
  by_cases updating : j.settings.updatePlt.isSet = true
  · exact (updateProject_ends keeps updating rfl).mono (fun _ _ ended => ended.1) fun _ _ ended => ended.1
  · have nothing : j.updateProject = (pure 0 : Act σ Nat) := by
      unfold updateProject
      rw [if_pos (by simpa using updating)]
    rw [nothing, Act.ensures_pure, plannedUpdate, if_neg updating]
    exact .refl s

/-- The steps of a run ask for what is planned, or stop on the way. -/
theorem steps_ask (keeps : j.keeper.Keeps format j.plts) (s : Session σ) :
    j.steps.Ensures (j.opened s) (fun _ s' => (j.opened s).Follows s' (j.planned format s))
      fun _ s' => (j.opened s).Stops s' (j.planned format s) := by
  unfold steps
  have begins := (Act.ensures_ran j.keeper.beginReport (j.opened s)).and (Keeper.beginReport_ends keeps _)
  refine begins.bind ?_ ?_
  · rintro e s' ⟨-, follows, -⟩
    exact ⟨[], List.nil_prefix, follows⟩
  rintro output s₁ ⟨begun, begins, -⟩
  have plan : j.planned format s = j.plannedFrom format s₁ := by simp only [planned, begun]
  rw [plan, plannedFrom]
  have updates := (Act.ensures_ran j.updateProject s₁).and (updateProject_asks keeps s₁)
  refine updates.bind ?_ ?_
  · rintro e s' ⟨-, stops⟩
    exact (begins.then_stops stops).append _
  rintro maintenance s₂ ⟨updated, follows⟩
  have own : j.ownAfterUpdate s₁ = j.ownFiles.resolved s₂ := by simp only [ownAfterUpdate, updated]
  rw [own]
  refine (successTyping_ends keeps s₂).bind ?_ ?_
  · rintro e s' ⟨stops, -⟩
    exact (begins.trans follows).then_stops stops
  rintro analysis s₃ ⟨typing, -⟩
  rw [Act.ensures_pure]
  exact (begins.trans follows).trans typing

/-- A base PLT is a regular file after its update just where the plan takes it to be one. -/
theorem isFile_after_updateBase (keeps : j.keeper.Keeps format j.plts) {required : FileSet}
    (yields : j.requiredFiles.Yields s₁ required) (sameTree : s.tree = s₁.tree) {warnings : Nat}
    (updated : j.updateBase (j.situation format s₁).base s = .ok warnings s₂) {there : Bool}
    (answered : s₂.tree.isFile j.keeper.cwd j.basePlt = .ok there) :
    there = true ↔ (j.situation format s₁).updatedBase ≠ .absent := by
  have known : (j.situation format s₁).required = required := yields.resolved
  have finds : j.Finds format (j.situation format s₁) s₁ :=
    finds_situation format (known.symm ▸ yields) rfl
  have keys := canonical_required keeps.rooted yields
  have baseKeys : (j.situation format s₁).base.Canonical j.keeper.cwd :=
    fun file member => keys file (known ▸ finds.within file member)
  have found : (j.situation format s₁).basePlt = s.tree.pltAt format j.keeper.cwd j.basePlt := by
    rw [sameTree]
    exact finds.basePlt
  have after := ((updateBase_ends keeps baseKeys found).of_ok updated).2
  have state := after.state found (by rw [sameTree]; exact finds.exposed)
  rw [← state]
  exact FileTree.isFile_iff_pltAt format answered

/-- What a run that has not failed resolves is what its plan is made from. -/
theorem resolved_of_not_failed (keeps : j.keeper.Keeps format j.plts) {n : Nat} {s₃ : Session σ}
    (ran : j.steps (j.opened s) = .ok n s₃) :
    ∃ s₁, j.Begins s s₁ ∧ j.planned format s = j.plannedFrom format s₁ ∧
      (j.settings.updatePlt.isSet = true →
        j.requiredFiles.Yields s₁ (j.situation format s₁).required ∧
        j.baseFiles.Yields s₁ (j.situation format s₁).base) ∧
      (j.settings.succTypings.isSet = true → ∃ m s₂,
        j.updateProject s₁ = .ok m s₂ ∧ j.ownFiles.Yields s₂ (j.ownAfterUpdate s₁)) := by
  obtain ⟨output, s₁, maintenance, s₂, analysis, begun, updated, analysed, -⟩ := j.steps_eq_ok ran
  refine ⟨s₁, ⟨output, begun⟩, by simp only [planned, begun], ?_, ?_⟩
  · intro updating
    have yields := ((updateProject_ends keeps updating rfl).of_ok updated).2.1
    exact ⟨yields, (finds_situation format yields rfl).base s₁ rfl rfl⟩
  · intro on
    refine ⟨maintenance, s₂, updated, ?_⟩
    have own : j.ownAfterUpdate s₁ = j.ownFiles.resolved s₂ := by simp only [ownAfterUpdate, updated]
    rw [own]
    unfold successTyping at analysed
    simp only [on, Bool.not_true, Bool.false_eq_true, if_false] at analysed
    obtain ⟨_, s₀, logged, analysed⟩ := Act.bind_eq_ok analysed
    cases logged
    obtain ⟨files, s', resolved, -⟩ := Act.bind_eq_ok analysed
    have yields : j.ownFiles.Yields s₂ files := ownFiles_yields_of_same j ⟨s', resolved⟩ rfl
    rw [yields.resolved]
    exact yields

/-- A run asks for exactly what is planned from the sets that it resolves and from the PLTs as they are
when its report has begun; a run that stops, for a first part of it. A project PLT that is there leaves
the base PLT out of the plan altogether; with a backend that touches no PLT but the one that it is given to
write, that file stays what it is, byte for byte, as it does where no PLT is to be brought up to date. -/
theorem requests_of_run (made : Job.of host backend settings project runtime = .ok j)
    (rooted : Path.Rooted host.cwd) (semantics : backend.SetSemantics format host.cwd j.plts)
    (s : Session σ) :
    (∀ o s', j.run s = .ok o s' → o.status ≠ .failed → ∃ s₁, j.Begins s s₁ ∧
      s'.requests = s.requests ++ j.plannedFrom format s₁ ∧
      (settings.updatePlt.isSet = true →
        j.requiredFiles.Yields s₁ (j.situation format s₁).required ∧
        j.baseFiles.Yields s₁ (j.situation format s₁).base) ∧
      (settings.succTypings.isSet = true → ∃ m s₂,
        j.updateProject s₁ = .ok m s₂ ∧ j.ownFiles.Yields s₂ (j.ownAfterUpdate s₁))) ∧
    (∃ made, made <+: j.planned format s ∧ (j.run.after s).requests = s.requests ++ made) ∧
    (∀ s₁ held, (j.situation format s₁).plt = .holds held →
      ∀ r ∈ j.plannedFrom format s₁, j.Concerns j.plt r) ∧
    (backend.Confined host.cwd j.plts → (∀ t : FileTree, ¬ t.SameFile host.cwd j.basePlt j.plt) →
      settings.updatePlt.isSet = false ∨ (∃ held, s.tree.pltAt format host.cwd j.plt = .holds held) →
      j.Steady s.tree j.basePlt →
      (j.run.after s).tree.bytesAt? host.cwd j.basePlt = s.tree.bytesAt? host.cwd j.basePlt) ∧
    (∀ s₁ s₂ s₃ required n there, j.requiredFiles.Yields s₁ required → s₂.tree = s₁.tree →
      j.updateBase (j.situation format s₁).base s₂ = .ok n s₃ →
      s₃.tree.isFile host.cwd j.basePlt = .ok there →
      (there = true ↔ (j.situation format s₁).updatedBase ≠ .absent)) := by
  obtain ⟨_, _, _, same, directory, rfl, _⟩ := Job.of_eq_ok made
  have keeps := Job.keeps_of made rooted semantics
  rw [← directory, ← same]
  refine ⟨?_, ?_, ?_, run_leaves_basePlt keeps, ?_⟩
  · intro o s' ran notFailed
    obtain ⟨n, s₃, steps, ⟨path, log, rfl⟩, -⟩ := j.steps_of_not_failed ran notFailed
    obtain ⟨s₁, begins, plan, update, typing⟩ := resolved_of_not_failed keeps steps
    refine ⟨s₁, begins, ?_, update, typing⟩
    rw [← plan]
    exact ((steps_ask keeps s).of_ok steps).requests
  · have ends := (steps_ask keeps s).mono (fun _ _ follows => follows.stops) fun _ _ stops => stops
    obtain ⟨path, log, handedOn⟩ := j.after_run s
    obtain ⟨made, front, follows⟩ := ends.after
    exact ⟨made, front, by rw [handedOn]; exact follows.requests⟩
  · intro s₁ held there r member
    rcases List.mem_append.mp member with update | typing
    · exact concerns_of_update there update
    · exact concerns_of_typing typing
  · intro s₁ s₂ s₃ required n there yields sameTree updated answered
    exact isFile_after_updateBase keeps yields sameTree updated answered

theorem requests_of_fresh_project : ∃ j o s', Exact.job "/w/s" (fun _ => none) [] = .ok j ∧
    j.run Exact.session = .ok o s' ∧ o.status = .success ∧ s'.requests.length = 5 ∧
    ∃ s₁, j.Begins Exact.session s₁ ∧ s'.requests = j.plannedFrom (Exact.contents "/w") s₁ := by
  have checked : checkRun (Exact.job "/w/s" (fun _ => none) []) Exact.session (fun _ o s' =>
      o.status = .success && s'.requests.length = 5) = true := by decide +kernel
  obtain ⟨j, o, s', made, ran, checked⟩ := of_checkRun checked
  rw [Bool.and_eq_true, decide_eq_true_iff, decide_eq_true_iff] at checked
  obtain ⟨succeeded, five⟩ := checked
  obtain ⟨s₁, begun, exactly, -⟩ := (requests_of_run made Exact.rooted_host
    (Exact.setSemantics Exact.rooted_host) Exact.session).1 o s' ran (by rw [succeeded]; decide)
  exact ⟨j, o, s', made, ran, succeeded, five, s₁, begun, exactly⟩

end PltKeeper.Job
