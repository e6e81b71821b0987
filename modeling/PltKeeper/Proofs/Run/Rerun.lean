import PltKeeper.Proofs.Run.Requests
import PltKeeper.Proofs.Run.Restart

/-! A run after a run. The first one leaves in the project PLT what is required, so that the next one finds
nothing to remove and nothing to add: it asks what the PLT holds, checks that, and goes on to success
typing. No analysis writes a PLT then, and the files stay what they are, byte for byte. Files that a base
PLT brought along unnoticed are the exception: the next run removes them. -/
namespace PltKeeper

variable {σ : Type}

namespace Keeper

variable {k : Keeper σ} {format : PltFormat} {plts : List Path} {plt : Path} {held required : FileSet}

/-- With all that is required held, nothing is added. -/
theorem syncRequests_of_superset (within : ∀ file ∈ required, file ∈ held) :
    k.syncRequests plt held required = k.ask .remove plt (held \ required) ++ k.ask .check plt required := by
  have kept : held ∩ required = required := FileSet.ext fun file =>
    FileSet.mem_inter.trans (and_iff_right_of_imp (within file))
  have added : required \ held = ∅ := (FileSet.delta_of_subset within).1
  have nothing : k.ask .add plt ∅ = [] := rfl
  rw [syncRequests, kept, added, nothing, List.append_nil]

end Keeper

namespace Job

variable {j : Job σ} {format : PltFormat} {s s₁ s' r : Session σ} {required : FileSet}

/-- The project's own files, as they are found for success typing. -/
def ownFound (j : Job σ) (r : Session σ) : FileSet :=
  match j.keeper.beginReport (j.opened r) with
  | .ok _ r₁ => j.ownAfterUpdate r₁
  | .error _ _ => ∅

/-- The requests of a run that finds all that is required in the project PLT, and may find more. -/
def rechecks (j : Job σ) (required held : FileSet) (r : Session σ) : List Request :=
  .query j.plt :: (j.keeper.ask .remove j.plt (held \ required) ++ j.keeper.ask .check j.plt required ++
    j.plannedTyping (j.ownFound r))

section
variable (keeps : j.keeper.Keeps format j.plts) (updating : j.settings.updatePlt.isSet = true) {held : FileSet}
  (resolves : ∀ r₁, j.Begins r r₁ → j.requiredFiles.Yields r₁ required)
  (holds : r.tree.pltAt format j.keeper.cwd j.plt = .holds held) (within : ∀ file ∈ required, file ∈ held)
include keeps updating resolves holds within

theorem planned_of_superset (begins : j.Begins r s₁) : j.planned format r = j.rechecks required held r := by
  have known : (j.situation format s₁).required = required := (resolves s₁ begins).resolved
  have found : (j.situation format s₁).plt = .holds held := holds_of_begun keeps begins holds
  obtain ⟨output, begun⟩ := begins
  simp only [planned, rechecks, ownFound, begun]
  rw [plannedFrom, plannedUpdate, if_pos updating, found, known]
  simp only
  rw [Keeper.syncRequests_of_superset within, List.cons_append]

/-- A run removes what the project PLT holds beside the required files, and checks these; or it stops on
the way. -/
theorem run_rechecks :
    (∃ made, made <+: j.rechecks required held r ∧ (j.run.after r).requests = r.requests ++ made) ∧
      ∀ o r', j.run r = .ok o r' → o.status ≠ .failed →
        r'.requests = r.requests ++ j.rechecks required held r := by
  have asks := steps_ask keeps r
  constructor
  · obtain ⟨made, front, follows⟩ :=
      (asks.mono (fun _ _ follows => follows.stops) fun _ _ stops => stops).after
    obtain ⟨path, log, handedOn⟩ := j.after_run r
    refine ⟨made, ?_, by rw [handedOn]; exact follows.requests⟩
    cases begun : j.keeper.beginReport (j.opened r) with
    | ok output r₁ => exact planned_of_superset keeps updating resolves holds within ⟨output, begun⟩ ▸ front
    | error e r₁ =>
      simp only [planned, begun, List.prefix_nil] at front
      exact front ▸ List.nil_prefix
  · intro o r' ran notFailed
    obtain ⟨n, r₃, steps, ⟨path, log, rfl⟩, -⟩ := j.steps_of_not_failed ran notFailed
    obtain ⟨output, r₁, _, _, _, begun, -⟩ := j.steps_eq_ok steps
    rw [← planned_of_superset keeps updating resolves holds within ⟨output, begun⟩]
    exact (asks.of_ok steps).requests

end

/-- A run that finds the project PLT comes through, if nothing stands in its way. -/
theorem run_succeeds_of_holds (keeps : j.keeper.Keeps format j.plts) (formed : r.tree.WellFormed) {held : FileSet}
    (holds : r.tree.pltAt format j.keeper.cwd j.plt = .holds held) (unhindered : j.Unhindered format required r) :
    ∃ o r', j.run r = .ok o r' ∧ o.status ≠ .failed := by
  obtain ⟨room, roomy⟩ := unhindered.room.roomy formed
  have begins : j.keeper.beginReport.Succeeds (j.opened r) fun _ s' => j.Sturdy room s'.tree :=
    Keeper.beginReport_succeeds roomy
  obtain ⟨output, r₁, begun, sturdy⟩ := begins.eq_ok
  have holds := holds_of_begun keeps ⟨output, begun⟩ holds
  have updates := updateProject_succeeds keeps unhindered.serves unhindered.legible
    (unhindered.required r₁ ⟨output, begun⟩) (by simp [holds]) (fun absent => nomatch absent.symm.trans holds) sturdy
  obtain ⟨n, r₂, updated, sturdy⟩ := updates.eq_ok
  obtain ⟨o, r', ran, notFailed, -⟩ := run_of_updated keeps unhindered begun updated sturdy
  exact ⟨o, r', ran, notFailed⟩

/-! ## The first run -/

/-- A project PLT that is made comes from a base PLT that is none or can be read. -/
theorem readable_of_updated (keeps : j.keeper.Keeps format j.plts) (updating : j.settings.updatePlt.isSet = true)
    {n : Nat} (updated : j.updateProject s = .ok n s')
    (absent : s.tree.pltAt format j.keeper.cwd j.plt = .absent) :
    s.tree.pltAt format j.keeper.cwd j.basePlt ≠ .unreadable := by
  have on : ¬ (!j.settings.updatePlt.isSet) = true := by simpa using updating
  unfold updateProject at updated
  rw [if_neg on] at updated
  obtain ⟨_, _, logged, updated⟩ := Act.bind_eq_ok updated
  cases logged
  obtain ⟨required, s₁, resolved, updated⟩ := Act.bind_eq_ok updated
  have same : s₁.tree = s.tree := ((j.requiredFiles_ends _).of_ok resolved).1.tree
  obtain ⟨answer, s₂, read, updated⟩ := Act.bind_eq_ok updated
  obtain ⟨-, same₂, state⟩ := (Keeper.read_ends keeps j.plt_mem s₁).of_ok read
  rw [same, absent] at state
  cases answer with
  | some held => exact nomatch state
  | none =>
    obtain ⟨_, _, logged, updated⟩ := Act.bind_eq_ok updated
    cases logged
    obtain ⟨base, s₃, resolvedBase, updated⟩ := Act.bind_eq_ok updated
    have same₃ : s₃.tree = s₂.tree := ((j.baseFiles_ends _).of_ok resolvedBase).1.tree
    obtain ⟨_, _, updatedBase, -⟩ := Act.bind_eq_ok updated
    obtain ⟨answer, _, readBase, -⟩ := Act.bind_eq_ok updatedBase
    obtain ⟨-, -, state⟩ := (Keeper.read_ends keeps j.basePlt_mem s₃).of_ok readBase
    rw [← same, ← same₂, ← same₃, state]
    cases answer <;> exact fun never => nomatch never

/-- What a run that has not failed leaves in the project PLT. -/
theorem plt_after_run (keeps : j.keeper.Keeps format j.plts) (updating : j.settings.updatePlt.isSet = true)
    {o : Outcome} (ran : j.run s = .ok o s') (notFailed : o.status ≠ .failed) :
    ∃ s₁ required, j.Begins s s₁ ∧ j.requiredFiles.Yields s₁ required ∧
      (required ≠ ∅ →
        s'.tree.pltAt format j.keeper.cwd j.plt = .holds (required ∪ (j.situation format s₁).stale)) ∧
      (s.tree.WellFormed → (∀ plt ∈ j.plts, ".." ∉ plt.parts) →
        s'.tree.pltAt format j.keeper.cwd j.plt ≠ .absent →
        s'.tree.pltAt format j.keeper.cwd j.plt = .holds required) := by
  obtain ⟨n, s₃, steps, ⟨path, log, rfl⟩, -⟩ := j.steps_of_not_failed ran notFailed
  obtain ⟨output, s₁, maintenance, s₂, analysis, begun, updated, analysed, -⟩ := j.steps_eq_ok steps
  obtain ⟨-, yields, complete, recoverable⟩ := (updateProject_ends keeps updating rfl).of_ok updated
  have same : s₃.tree.pltAt format j.keeper.cwd j.plt = s₂.tree.pltAt format j.keeper.cwd j.plt :=
    ((successTyping_ends keeps s₂).of_ok analysed).2 j.plt j.plt_mem
  refine ⟨s₁, _, ⟨output, begun⟩, yields, fun some => same.trans (complete fun _ => some), ?_⟩
  intro formed plain there
  have formed := ((Keeper.beginReport_ends keeps (j.opened s)).of_ok begun).1.formed formed
  have nothing : (j.situation format s₁).stale = ∅ := stale_of_plain formed (plain j.basePlt j.basePlt_mem)
  by_cases fresh : (j.situation format s₁).plt = .absent ∧ (j.situation format s₁).required = ∅
  · obtain ⟨absent, none⟩ := fresh
    have calm : j.Calm format s₁.tree := by
      refine ⟨formed, plain, fun plt member => ?_⟩
      rcases mem_plts.mp member with rfl | rfl
      · rw [show s₁.tree.pltAt format j.keeper.cwd j.plt = .absent from absent]
        exact fun never => nomatch never
      · exact readable_of_updated keeps updating updated absent
    rw [none]
    rcases (recoverable calm).of_none absent (finds_situation format yields rfl).within none with holds | gone
    · exact same.trans holds
    · exact absurd (same.trans gone) there
  · have holds := same.trans (complete fun absent none => fresh ⟨absent, none⟩)
    rwa [nothing, FileSet.union_empty] at holds

/-! ## The run after it -/

/-- A run that finds just what is required in the project PLT: one question, one check of the required files
unless there are none, and success typing as the settings ask for it. The PLTs stay what they are. -/
structure OnlyChecks (j : Job σ) (required : FileSet) (r : Session σ) : Prop where
  asks : ∃ made, (j.run.after r).requests = r.requests ++ made ∧
    made <+: .query j.plt :: (j.keeper.ask .check j.plt required ++ j.plannedTyping (j.ownFound r))
  all : ∀ o r', j.run r = .ok o r' → o.status ≠ .failed → r'.requests = r.requests ++
    .query j.plt :: (j.keeper.ask .check j.plt required ++ j.plannedTyping (j.ownFound r))
  leaves : ∀ plt ∈ j.plts, j.Steady r.tree plt →
    (j.run.after r).tree.bytesAt? j.keeper.cwd plt = r.tree.bytesAt? j.keeper.cwd plt

/-- What a run that has not failed leaves in the project PLT is, for the next one, just what is required,
if no base PLT came within reach unnoticed or all that it held is required; and so wherever no path of a PLT
goes up. The next run then only checks. Else it also removes what is not required. It does come through, with a
backend that serves it and where nothing else stands in its way. -/
theorem rerun_after_run {host : Host} {backend : Backend σ} {settings : Settings} {project : Project}
    {runtime : OtpRuntime} {o : Outcome} (made : Job.of host backend settings project runtime = .ok j)
    (rooted : Path.Rooted host.cwd) (semantics : backend.SetSemantics format host.cwd j.plts)
    (onlyReads : backend.OnlyReads host.cwd j.plts) (updating : settings.updatePlt.isSet = true)
    (ran : j.run s = .ok o s') (notFailed : o.status ≠ .failed) :
    ∃ s₁ required, j.Begins s s₁ ∧ j.requiredFiles.Yields s₁ required ∧
      (s.tree.WellFormed → (∀ plt ∈ j.plts, ".." ∉ plt.parts) →
        s'.tree.pltAt format host.cwd j.plt ≠ .absent →
        s'.tree.pltAt format host.cwd j.plt = .holds required) ∧
      (required ≠ ∅ →
        s'.tree.pltAt format host.cwd j.plt = .holds (required ∪ (j.situation format s₁).stale)) ∧
      ∀ r, r.tree = s'.tree → (∀ r₁, j.Begins r r₁ → j.requiredFiles.Yields r₁ required) →
        (s'.tree.pltAt format host.cwd j.plt = .holds required → j.OnlyChecks required r) ∧
        ∀ held, s'.tree.pltAt format host.cwd j.plt = .holds held → (∀ file ∈ required, file ∈ held) →
          (∀ o' r', j.run r = .ok o' r' → o'.status ≠ .failed →
            r'.requests = r.requests ++ j.rechecks required held r) ∧
          (r.tree.WellFormed → j.Unhindered format required r →
            ∃ o' r', j.run r = .ok o' r' ∧ o'.status ≠ .failed ∧
              r'.requests = r.requests ++ j.rechecks required held r) := by
  obtain ⟨_, _, _, same, directory, sameSettings, _⟩ := Job.of_eq_ok made
  have keeps := Job.keeps_of made rooted semantics
  have updating := sameSettings ▸ updating
  rw [← directory]
  rw [← directory, ← same] at onlyReads
  obtain ⟨s₁, required, begins, yields, complete, plain⟩ := plt_after_run keeps updating ran notFailed
  refine ⟨s₁, required, begins, yields, plain, complete, fun r left resolves => ?_⟩
  rw [← left]
  refine ⟨fun holds => ?checks, fun held holds within =>
    ⟨(run_rechecks keeps updating resolves holds within).2, fun formed unhindered => ?comesThrough⟩⟩
  case comesThrough =>
    obtain ⟨o', r', ran, notFailed⟩ := run_succeeds_of_holds keeps formed holds unhindered
    exact ⟨o', r', ran, notFailed, (run_rechecks keeps updating resolves holds within).2 o' r' ran notFailed⟩
  have nothing : required \ required = ∅ := (FileSet.delta_of_subset fun _ member => member).1
  obtain ⟨⟨made, front, requests⟩, all⟩ := run_rechecks keeps updating resolves holds fun _ member => member
  have only : j.rechecks required required r =
      .query j.plt :: (j.keeper.ask .check j.plt required ++ j.plannedTyping (j.ownFound r)) := by
    rw [rechecks, nothing]
    rfl
  rw [only] at front all
  exact ⟨⟨made, requests, front⟩, all, run_leaves_plts keeps onlyReads resolves holds⟩

theorem rerun_of_fresh_project : ∃ j o s' o' r' required, Exact.job "/w/s" (fun _ => none) [] = .ok j ∧
    j.run Exact.session = .ok o s' ∧ o.status = .success ∧ required ≠ ∅ ∧
    j.run (Exact.sessionIn s'.tree) = .ok o' r' ∧ r'.requests.length = 3 ∧
    j.OnlyChecks required (Exact.sessionIn s'.tree) := by
  have checked : checkRun (Exact.job "/w/s" (fun _ => none) []) Exact.session (fun j o s' =>
      j.keeper.beginReport.check (j.opened Exact.session) fun _ s₁ => j.requiredFiles.check s₁ fun required _ =>
        j.keeper.beginReport.check (j.opened (Exact.sessionIn s'.tree)) fun _ r₁ =>
          j.requiredFiles.check r₁ fun again _ =>
            j.run.check (Exact.sessionIn s'.tree) fun _ r' =>
              o.status = .success && required ≠ ∅ && again = required && r'.requests.length = 3 &&
                s'.tree.pltAt (Exact.contents "/w") "/w" j.plt = .holds required) = true := by decide +kernel
  obtain ⟨j, o, s', made, ran, checked⟩ := of_checkRun checked
  obtain ⟨_, s₁, begun, checked⟩ := Act.of_check checked
  obtain ⟨required, _, resolved, checked⟩ := Act.of_check checked
  obtain ⟨_, r₁, begunAgain, checked⟩ := Act.of_check checked
  obtain ⟨again, _, resolvedAgain, checked⟩ := Act.of_check checked
  obtain ⟨o', r', ranAgain, checked⟩ := Act.of_check checked
  simp only [Bool.and_eq_true, decide_eq_true_eq] at checked
  obtain ⟨⟨⟨⟨succeeded, some⟩, rfl⟩, three⟩, holds⟩ := checked
  obtain ⟨s₁', required', ⟨_, begun'⟩, yields, -, -, next⟩ := rerun_after_run made Exact.rooted_host
    (Exact.setSemantics Exact.rooted_host) Exact.onlyReads rfl ran (by rw [succeeded]; decide)
  cases begun.symm.trans begun'
  have same : required' = again := by
    rw [← yields.resolved, ← Act.Yields.resolved ⟨_, resolved⟩]
  subst same
  have resolves : ∀ r, j.Begins (Exact.sessionIn s'.tree) r → j.requiredFiles.Yields r required' := by
    rintro _ ⟨_, begun'⟩
    cases begunAgain.symm.trans begun'
    exact ⟨_, resolvedAgain⟩
  exact ⟨j, o, s', o', r', required', made, ran, succeeded, some, ranAgain, three,
    (next (Exact.sessionIn s'.tree) rfl resolves).1 holds⟩

/-- The first run takes up the PLT of earlier days, which came within reach when a directory was made for the
base PLT, as if it held nothing; the second one has to remove what it does hold. -/
theorem rerun_counterexample :
    ¬ ∀ (host : Host) (backend : Backend Nat) (format : PltFormat) (settings : Settings)
      (project : Project) (runtime : OtpRuntime) (j : Job Nat) (s s₁ s' r r₁ r' : Session Nat) (o o' : Outcome)
      (required : FileSet) (options : Options),
      Job.of host backend settings project runtime = .ok j → Path.Rooted host.cwd →
      backend.SetSemantics format host.cwd j.plts → backend.Serves format host.cwd j.plts →
      backend.OnlyReads host.cwd j.plts → settings.updatePlt.isSet = true → s.tree.WellFormed →
      (∀ plt ∈ j.plts, s.tree.pltAt format host.cwd plt ≠ .unreadable) →
      j.Begins s s₁ → j.requiredFiles.Yields s₁ required → j.run s = .ok o s' → o.status ≠ .failed →
      s'.tree.pltAt format host.cwd j.plt ≠ .absent →
      r.tree = s'.tree → r.requests = [] → j.Begins r r₁ → j.requiredFiles.Yields r₁ required →
      j.run r = .ok o' r' → .analyze options ∈ r'.requests → options.analysis ≠ .remove := by
  intro claim
  have checked : checkRun (Exact.job "/w/s/new/.." (fun _ => none) []) Exact.session (fun j o s' =>
      j.keeper.beginReport.check (j.opened Exact.session) fun _ s₁ => j.requiredFiles.check s₁ fun required _ =>
        j.keeper.beginReport.check (j.opened (Exact.sessionIn s'.tree)) fun _ r₁ =>
          j.requiredFiles.check r₁ fun again _ =>
            j.run.check (Exact.sessionIn s'.tree) fun _ r' =>
              o.status ≠ .failed && again = required &&
                (j.plts.all fun plt => Exact.tree.pltAt (Exact.contents "/w") "/w" plt ≠ .unreadable) &&
                s'.tree.pltAt (Exact.contents "/w") "/w" j.plt ≠ .absent &&
                (r'.requests.filterMap Request.analyze?).any (·.analysis = .remove)) = true := by decide +kernel
  obtain ⟨j, o, s', made, ran, checked⟩ := of_checkRun checked
  obtain ⟨_, s₁, begun, checked⟩ := Act.of_check checked
  obtain ⟨required, _, resolved, checked⟩ := Act.of_check checked
  obtain ⟨_, r₁, begunAgain, checked⟩ := Act.of_check checked
  obtain ⟨again, _, resolvedAgain, checked⟩ := Act.of_check checked
  obtain ⟨o', r', ranAgain, checked⟩ := Act.of_check checked
  simp only [Bool.and_eq_true, decide_eq_true_eq, List.all_eq_true, List.any_eq_true, List.mem_filterMap] at checked
  obtain ⟨⟨⟨⟨notFailed, rfl⟩, readable⟩, there⟩, options, ⟨q, asked, analysis⟩, removes⟩ := checked
  have asked : .analyze options ∈ r'.requests := by
    cases q with
    | query plt => cases analysis
    | analyze o =>
      cases analysis
      exact asked
  exact claim Exact.host _ (Exact.contents "/w") _ _ _ j Exact.session s₁ s' (Exact.sessionIn s'.tree) r₁ r' o o'
    again options made Exact.rooted_host (Exact.setSemantics Exact.rooted_host) Exact.serves Exact.onlyReads rfl
    Exact.wellFormed_tree readable ⟨_, begun⟩ ⟨_, resolved⟩ ran notFailed there rfl rfl ⟨_, begunAgain⟩
    ⟨_, resolvedAgain⟩ ranAgain asked removes

end Job

end PltKeeper
