import PltKeeper.Proofs.Backend.Exact
import PltKeeper.Proofs.Run.Maintenance

/-! What the project PLT holds after a run that has not failed: what was required when the run began,
and nothing else, except in one case. A base PLT is taken to be absent while its path leads nowhere.
If the path goes up again from a directory that is made for it, a file may come within reach that was
there all along; where no base application is configured this file is not built over, and its copy
keeps what it held. -/
namespace PltKeeper.Job

variable {σ : Type} {host : Host} {backend : Backend σ} {settings : Settings} {project : Project}
  {runtime : OtpRuntime} {j : Job σ} {format : PltFormat} {s s' s₁ : Session σ} {o : Outcome}

/-- Nothing comes within reach of a path that does not go up. -/
theorem stale_of_plain (formed : s₁.tree.WellFormed) (plain : ".." ∉ j.basePlt.parts) :
    (j.situation format s₁).stale = ∅ := by
  have same : (j.situation format s₁).exposed = (j.situation format s₁).basePlt := by
    unfold situation FileTree.pltAt
    rw [(FileTree.makeDirs_grows s₁.tree j.keeper.cwd j.basePlt.parent).bytesAt?_plain formed plain]
  unfold Situation.stale
  rw [same]
  split
  · simp_all
  · rfl

/-- A run that has not failed leaves the project PLT with the files required when it began, and with
those of a base PLT that came within reach unnoticed. So it holds exactly the required files just
where all of these are required, and in any case where the path of the base PLT does not go up. -/
theorem contents_after_run (made : Job.of host backend settings project runtime = .ok j)
    (rooted : Path.Rooted host.cwd) (semantics : backend.SetSemantics format host.cwd j.plts)
    (updating : settings.updatePlt.isSet = true) (ran : j.run s = .ok o s')
    (notFailed : o.status ≠ .failed) :
    ∃ s₁ required, j.Begins s s₁ ∧ j.requiredFiles.Yields s₁ required ∧
      (required ≠ ∅ →
        s'.tree.pltAt format host.cwd j.plt = .holds (required ∪ (j.situation format s₁).stale) ∧
        (s'.tree.pltAt format host.cwd j.plt = .holds required ↔
          ∀ file ∈ (j.situation format s₁).stale, file ∈ required)) ∧
      (s.tree.WellFormed → ".." ∉ j.basePlt.parts → (j.situation format s₁).stale = ∅) := by
  obtain ⟨_, _, _, _, directory, sameSettings, _⟩ := Job.of_eq_ok made
  have keeps := Job.keeps_of made rooted semantics
  obtain ⟨n, s₃, steps, ⟨path, log, rfl⟩, -⟩ := j.steps_of_not_failed ran notFailed
  obtain ⟨output, s₁, maintenance, s₂, analysis, begun, updated, analysed, -⟩ := j.steps_eq_ok steps
  obtain ⟨-, yields, complete, -⟩ :=
    (updateProject_ends keeps (sameSettings ▸ updating) rfl).of_ok updated
  have same := ((successTyping_ends keeps s₂).of_ok analysed).2 j.plt j.plt_mem
  rw [← directory]
  refine ⟨s₁, _, ⟨output, begun⟩, yields, ?_, ?_⟩
  · intro some
    have holds := same.trans (complete fun _ => some)
    refine ⟨holds, ?_⟩
    rw [show s₃.tree.pltAt format j.keeper.cwd j.plt = _ from holds, PltState.holds.injEq]
    exact FileSet.union_eq_left_iff
  · intro formed plain
    have follows := ((Keeper.beginReport_ends keeps (j.opened s)).of_ok begun).1
    exact stale_of_plain (follows.formed formed) plain

theorem contents_of_fresh_project : ∃ j o s', Exact.job "/w/s" (fun _ => none) [] = .ok j ∧
    j.run Exact.session = .ok o s' ∧ o.status = .success ∧
    ∃ s₁ required, j.Begins Exact.session s₁ ∧ j.requiredFiles.Yields s₁ required ∧
      (required ≠ ∅ → s'.tree.pltAt (Exact.contents "/w") "/w" j.plt = .holds required) := by
  have checked : checkRun (Exact.job "/w/s" (fun _ => none) []) Exact.session (fun j o _ =>
      o.status = .success && !j.basePlt.parts.contains "..") = true := by decide +kernel
  obtain ⟨j, o, s', made, ran, checked⟩ := of_checkRun checked
  rw [Bool.and_eq_true, decide_eq_true_iff] at checked
  obtain ⟨succeeded, plain⟩ := checked
  have plain : ".." ∉ j.basePlt.parts := by simpa using plain
  obtain ⟨s₁, required, begun, yields, complete, nothing⟩ := contents_after_run made Exact.rooted_host
    (Exact.setSemantics Exact.rooted_host) rfl ran (by rw [succeeded]; decide)
  refine ⟨j, o, s', made, ran, succeeded, s₁, required, begun, yields, fun some => ?_⟩
  apply (complete some).2.mpr
  rw [nothing Exact.wellFormed_tree plain]
  exact fun file member => absurd member FileSet.not_mem_empty

/-- The path of the base PLT goes up from a directory that is not there yet, so the PLT of earlier days
is not found. Once the directory is made it is, and what it holds ends up in the project PLT. -/
theorem contents_counterexample :
    ¬ ∀ (host : Host) (backend : Backend Nat) (format : PltFormat) (settings : Settings)
      (project : Project) (runtime : OtpRuntime) (j : Job Nat) (s s₁ s' : Session Nat) (o : Outcome)
      (required : FileSet),
      Job.of host backend settings project runtime = .ok j → Path.Rooted host.cwd →
      backend.SetSemantics format host.cwd j.plts → backend.FailsCleanly format host.cwd j.plts →
      settings.updatePlt.isSet = true → s.tree.WellFormed →
      (∀ plt ∈ j.plts, s.tree.pltAt format host.cwd plt ≠ .unreadable) →
      j.run s = .ok o s' → o.status ≠ .failed →
      j.Begins s s₁ → j.requiredFiles.Yields s₁ required → required ≠ ∅ →
      s'.tree.pltAt format host.cwd j.plt = .holds required := by
  intro claim
  have checked : checkRun (Exact.job "/w/s/new/.." (fun _ => none) []) Exact.session (fun j o s' =>
      j.keeper.beginReport.check (j.opened Exact.session) fun _ s₁ =>
        j.requiredFiles.check s₁ fun required _ =>
          o.status ≠ .failed && required ≠ ∅ &&
            (j.plts.all fun plt => Exact.tree.pltAt (Exact.contents "/w") "/w" plt ≠ .unreadable) &&
            s'.tree.pltAt (Exact.contents "/w") "/w" j.plt ≠ .holds required) = true := by
    decide +kernel
  obtain ⟨j, o, s', made, ran, checked⟩ := of_checkRun checked
  obtain ⟨output, s₁, begun, checked⟩ := Act.of_check checked
  obtain ⟨required, rest, resolved, checked⟩ := Act.of_check checked
  simp only [Bool.and_eq_true, decide_eq_true_eq, List.all_eq_true] at checked
  obtain ⟨⟨⟨notFailed, some⟩, readable⟩, different⟩ := checked
  exact different (claim Exact.host _ (Exact.contents "/w") _ _ _ j Exact.session s₁ s' o required made
    Exact.rooted_host (Exact.setSemantics Exact.rooted_host) Exact.failsCleanly rfl
    Exact.wellFormed_tree readable ran notFailed ⟨output, begun⟩ ⟨rest, resolved⟩ some)

end PltKeeper.Job
