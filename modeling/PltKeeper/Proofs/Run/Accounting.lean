import PltKeeper.Console.Message
import PltKeeper.Proofs.Backend.Exact
import PltKeeper.Proofs.Plt.Tally
import PltKeeper.Proofs.Run.Ends

/-! The accounts of a run. From the moment its report has begun, a run does nothing but keep to a
course of phases, so between any two of them the total is the sum of what the phases recorded, and the
warnings file holds the lines that are counted. Only where a report is stopped half-way, by a line that
cannot be encoded or by a system that takes no more, may the front of its lines stand behind them; a run
ends there. The number that the steps return is put together from the results of the phases alone, and yet
is the total. -/
namespace PltKeeper

variable {σ : Type}

open Finding

namespace Job

variable {j : Job σ} {s s' s₁ : Session σ} {found : List Finding}

/-! ## A run keeps to its course -/

/-- An action of the run that only logs. -/
theorem goes_of_logged {α : Type} {act : Act σ α} {P : α → Prop} (ends : act.Ensures s
    (fun a s' => s.LoggedSince s' ∧ P a) fun _ s' => s.LoggedSince s') :
    j.keeper.Goes j.plts act s fun _ found => found = [] := by
  apply Keeper.goes_of_aside
  refine ends.mono ?_ ?_
  · rintro a s' ⟨⟨records, rfl⟩, -⟩
    exact ⟨.logged records, rfl⟩
  · rintro e s' ⟨records, rfl⟩
    exact .logged records

theorem copyBase_goes (s : Session σ) : j.keeper.Goes j.plts j.copyBase s fun _ found => found = [] := by
  unfold copyBase
  refine (Keeper.info_goes _ s).next fun _ s₁ => Keeper.Goes.restate ?_
  refine (Keeper.makeDirs_goes j.plt.parent s₁).next fun _ s₂ => ?_
  refine Act.ensures_change.mpr ⟨?_, fun _ _ => ⟨[], .start, nofun⟩⟩
  exact fun t copied => ⟨[], .aside .start (.copied j.plt_mem copied), nofun, rfl⟩

theorem updateBase_goes (files : FileSet) (s : Session σ) :
    j.keeper.Goes j.plts (j.updateBase files) s Keeper.Counts := by
  unfold updateBase
  refine (Keeper.read_goes j.basePlt s).next fun answer s₁ => ?_
  cases answer with
  | none => exact Keeper.build_goes j.basePlt_mem files.toList s₁
  | some held => exact Keeper.sync_goes j.basePlt_mem held files s₁

theorem makeProjectPlt_goes (files : FileSet) (s : Session σ) :
    j.keeper.Goes j.plts (j.makeProjectPlt files) s Keeper.Counts := by
  unfold makeProjectPlt
  refine (Keeper.info_goes _ s).next fun _ s₁ => ?_
  refine (goes_of_logged (j.baseFiles_ends s₁)).next fun base s₂ => ?_
  refine (updateBase_goes base s₂).bind fun warnings s₃ found counted => ?_
  refine (Keeper.ofTree_goes _ s₃).next fun there s₄ => ?_
  split
  · refine (copyBase_goes s₄).next fun _ s₅ => ?_
    refine (Keeper.sync_goes j.plt_mem base files s₅).bind fun more s₆ later countedLater => ?_
    refine Keeper.goes_pure ?_
    rw [List.append_nil]
    exact counted.add countedLater
  · refine (Keeper.build_goes j.plt_mem files.toList s₄).bind fun more s₅ later countedLater => ?_
    refine Keeper.goes_pure ?_
    rw [List.append_nil]
    exact counted.add countedLater

theorem updateProject_goes (s : Session σ) : j.keeper.Goes j.plts j.updateProject s Keeper.Counts := by
  unfold updateProject
  split
  · exact Keeper.goes_pure rfl
  refine (Keeper.info_goes _ s).next fun _ s₁ => ?_
  refine (goes_of_logged (j.requiredFiles_ends s₁)).next fun files s₂ => ?_
  refine (Keeper.read_goes j.plt s₂).next fun answer s₃ => ?_
  cases answer with
  | none => exact makeProjectPlt_goes files s₃
  | some held => exact Keeper.sync_goes j.plt_mem held files s₃

theorem successTyping_goes (s : Session σ) : j.keeper.Goes j.plts j.successTyping s Keeper.Counts := by
  unfold successTyping
  split
  · exact Keeper.goes_pure rfl
  refine (Keeper.info_goes _ s).next fun _ s₁ => ?_
  refine (goes_of_logged (j.ownFiles_ends s₁)).next fun files s₂ => ?_
  refine (Keeper.info_goes _ s₂).next fun _ s₃ => ?_
  exact Keeper.runPhase_goes j.plt_mem .successTyping files.toList s₃

/-- The steps of a run after its report has begun. -/
def work (j : Job σ) : Act σ Nat := do
  let maintenance ← j.updateProject
  let analysis ← j.successTyping
  return maintenance + analysis

theorem work_goes (s : Session σ) : j.keeper.Goes j.plts j.work s Keeper.Counts := by
  unfold work
  refine (updateProject_goes s).bind fun maintenance s₁ found counted => ?_
  refine (successTyping_goes s₁).bind fun analysis s₂ more countedMore => Keeper.goes_pure ?_
  rw [List.append_nil]
  exact counted.add countedMore

theorem steps_of_begun {output : Path} (begun : j.keeper.beginReport s = .ok output s₁) :
    j.steps s = j.work s₁ := by
  unfold steps
  simp only [bind, EStateM.bind, begun]
  rfl

/-- What a run leaves is what its steps leave after the report has begun, handed on. -/
theorem handedOn_of_begun {output : Path} (begun : j.keeper.beginReport (j.opened s) = .ok output s₁) :
    (j.work.after s₁).HandedOn (j.run.after s) := by
  have handedOn := j.after_run s
  unfold Act.after at handedOn ⊢
  rw [steps_of_begun begun] at handedOn
  exact handedOn

/-! ## The accounts -/

/-- The accounts of a run that began in the first session, at a point where its phases have found so
much. -/
structure Accounts (j : Job σ) (s : Session σ) (found : List Finding) (s' : Session σ) : Prop where
  /-- The total is what is counted. -/
  total : s'.total = (allCounted found).length
  /-- Each phase recorded what it counted, -/
  phases : s'.phases.map (·.warnings) = found.map fun f => (f.counted.length : Int)
  /-- and the total is the sum of that. -/
  sum : (s'.phases.map (·.warnings)).sum = s'.total
  /-- The warnings file holds what each finding has left in it, and nothing older: -/
  file : j.keeper.backend.Spares j.keeper.cwd j.plts j.keeper.output →
    ∃ parts, List.Forall₂ j.keeper.Leaves found parts ∧
      s'.tree.bytesAt? j.keeper.cwd j.keeper.output = some parts.flatten
  /-- the lines of what is counted and no others, where all lines can be encoded and the system takes them, -/
  exact : j.keeper.backend.Spares j.keeper.cwd j.plts j.keeper.output →
    (∀ t bytes, j.keeper.stops? t bytes = none) → (∀ d ∈ allShown found, d.IsEncodable) →
    s'.tree.bytesAt? j.keeper.cwd j.keeper.output =
      some (Keeper.reportBytes ((allCounted found).map Diagnostic.reported))
  /-- and else, as long as only the last finding could not be filed, these lines and perhaps its first ones. -/
  front : j.keeper.backend.Spares j.keeper.cwd j.plts j.keeper.output → (∀ f ∈ found.dropLast, f.filed = true) →
    ∃ front, s'.tree.bytesAt? j.keeper.cwd j.keeper.output =
        some (Keeper.reportBytes ((allCounted found).map Diagnostic.reported) ++ front) ∧
      (front = [] ∨ ∃ f, found.getLast? = some f ∧ f.filed = false ∧
        front <+: Keeper.reportBytes (f.diagnostics.map Diagnostic.reported))
  /-- The console is given what was found, -/
  console : s'.console = s.console ++ (allShown found).map Diagnostic.reported
  /-- which is what is counted where all of it could be filed. -/
  echoed : (∀ f ∈ found, f.filed = true) →
    s'.console = s.console ++ (allCounted found).map Diagnostic.reported

theorem Accounts.handedOn {s'' : Session σ} (accounts : j.Accounts s found s') (handedOn : s'.HandedOn s'') :
    j.Accounts s found s'' := by
  obtain ⟨path, log, rfl⟩ := handedOn
  exact { accounts with }

/-- What an outcome says of the session that it comes from. -/
structure Settled (j : Job σ) (o : Outcome) (s' : Session σ) : Prop where
  phases : o.phases = s'.phases
  success : o.status = .success → o.warnings = 0 ∧ o.error = none ∧ s'.total = 0
  warnings : o.status = .warnings → o.warnings = s'.total ∧ 1 ≤ o.warnings ∧
    o.error = some (.tool (.warningsFound o.warnings (some j.keeper.output)))
  failed : o.status = .failed → o.warnings = s'.total

section
variable (apart : ∀ plt ∈ j.plts, ∀ t : FileTree, ¬ t.SameFile j.keeper.cwd plt j.keeper.output)
  (fresh : s.total = 0) (none : s.phases = [])
include apart fresh none

/-- Along its course a run keeps its accounts. -/
theorem accounts_of_course (begins : j.Begins s s₁) (course : j.keeper.Course j.plts s₁ found s') :
    j.Accounts s found s' := by
  obtain ⟨output, begun⟩ := begins
  obtain ⟨total, phases, console, empty⟩ := Keeper.beginReport_clears begun
  have tallied := course.tallied apart
  have counted : s'.total = (allCounted found).length := by
    rw [tallied.total, total, show (j.opened s).total = 0 from fresh, Nat.zero_add]
  have recorded : s'.phases.map (·.warnings) = found.map fun f => (f.counted.length : Int) := by
    rw [tallied.phases, phases, show (j.opened s).phases = [] from none]
    rfl
  have shown : s'.console = s.console ++ (allShown found).map Diagnostic.reported := by
    rw [tallied.console, console]
    rfl
  have file (spares : j.keeper.backend.Spares j.keeper.cwd j.plts j.keeper.output) :
      ∃ parts, List.Forall₂ j.keeper.Leaves found parts ∧
        s'.tree.bytesAt? j.keeper.cwd j.keeper.output = some parts.flatten := tallied.file spares [] empty
  refine ⟨counted, recorded, ?_, file, ?_, ?_, shown, ?_⟩
  · rw [recorded, sum_counted, counted]
  · intro spares unstopped encodable
    obtain ⟨parts, leaves, holds⟩ := file spares
    rw [holds, Keeper.flatten_of_leaves leaves unstopped encodable]
  · intro spares filed
    obtain ⟨parts, leaves, holds⟩ := file spares
    obtain ⟨front, whole, ends⟩ := Keeper.front_of_leaves leaves filed
    exact ⟨front, whole ▸ holds, ends⟩
  · intro filed
    rw [shown, allShown_eq_allCounted filed]

/-- What the steps return is the total. -/
theorem total_of_steps {n : Nat} (ran : j.steps (j.opened s) = .ok n s') : n = s'.total := by
  obtain ⟨output, s₁, _, _, _, begun, -⟩ := j.steps_eq_ok ran
  rw [steps_of_begun begun] at ran
  obtain ⟨found, course, -, counted⟩ := Act.Ensures.of_ok (work_goes s₁) ran
  rw [(accounts_of_course apart fresh none ⟨output, begun⟩ course).total]
  exact counted

theorem settled_of_run {o : Outcome} (ran : j.run s = .ok o s') : j.Settled o s' := by
  cases j.ended s with
  | @completed n s₂ s₃ steps handedOn outcome =>
    rw [outcome] at ran
    cases ran
    obtain ⟨path, log, rfl⟩ := handedOn
    have total := total_of_steps apart fresh none steps
    unfold completed
    by_cases nothing : n = 0
    · rw [if_pos nothing]
      exact ⟨rfl, fun _ => ⟨rfl, rfl, total.symm.trans nothing⟩, nofun, nofun⟩
    · rw [if_neg nothing]
      have some : 1 ≤ (n : Int) := by omega
      exact ⟨rfl, nofun, fun _ => ⟨congrArg Nat.cast total, some, rfl⟩, nofun⟩
  | stopped _ _ outcome =>
    rw [outcome] at ran
    cases ran
    exact ⟨rfl, nofun, nofun, fun _ => rfl⟩
  | escaped _ _ failure => exact nomatch failure.symm.trans ran

end

/-- What a run leaves lies on its course. All that it found has been filed if the run has not failed, and all but
the last of it in any case. -/
theorem course_of_run {output : Path} (begun : j.keeper.beginReport (j.opened s) = .ok output s₁) : ∃ found s',
    j.keeper.Course j.plts s₁ found s' ∧ s'.HandedOn (j.run.after s) ∧ (∀ f ∈ found.dropLast, f.filed = true) ∧
      ∀ o s'', j.run s = .ok o s'' → o.status ≠ .failed → ∀ f ∈ found, f.filed = true := by
  have handedOn := handedOn_of_begun begun
  have goes := work_goes (j := j) s₁
  cases worked : j.work s₁ with
  | ok n s' =>
    obtain ⟨found, course, filed, -⟩ := Act.Ensures.of_ok goes worked
    rw [Act.after_of_ok worked] at handedOn
    exact ⟨found, s', course, handedOn, fun f member => filed f (List.dropLast_subset _ member), fun _ _ _ _ => filed⟩
  | error e s' =>
    obtain ⟨found, course, filed⟩ := Act.Ensures.of_error goes worked
    rw [Act.after_of_error worked] at handedOn
    refine ⟨found, s', course, handedOn, filed, fun o s'' ran notFailed => ?_⟩
    obtain ⟨n, s₃, steps, -⟩ := j.steps_of_not_failed ran notFailed
    rw [steps_of_begun begun, worked] at steps
    cases steps

/-- From the moment its report has begun, and wherever it stands between two phases, a run's accounts
are kept: the total is the sum of what the phases recorded, and the warnings file holds the lines of
what is counted and nothing older, up to the first lines of a report that failed half-way. What the run
leaves lies on its course, where at most the last report has failed, the outcome says what the accounts
say, and what the steps return is the total. -/
theorem accounts_of_run {host : Host} {backend : Backend σ} {settings : Settings} {project : Project}
    {runtime : OtpRuntime} (made : Job.of host backend settings project runtime = .ok j)
    (fresh : s.total = 0) (none : s.phases = []) :
    (∀ s₁ found s', j.Begins s s₁ → j.keeper.Course j.plts s₁ found s' → j.Accounts s found s') ∧
      (∀ s₁, j.Begins s s₁ → ∃ found s', j.keeper.Course j.plts s₁ found s' ∧
        s'.HandedOn (j.run.after s) ∧ j.Accounts s found (j.run.after s) ∧
        (∀ f ∈ found.dropLast, f.filed = true) ∧
        ∀ o s'', j.run s = .ok o s'' → o.status ≠ .failed → ∀ f ∈ found, f.filed = true) ∧
      (∀ o s', j.run s = .ok o s' → j.Settled o s') ∧
      ∀ n s', j.steps (j.opened s) = .ok n s' → n = s'.total := by
  have apart := Job.apart_of made
  refine ⟨fun s₁ found s' begins course => accounts_of_course apart fresh none begins course, ?_,
    fun o s' ran => settled_of_run apart fresh none ran,
    fun n s' ran => total_of_steps apart fresh none ran⟩
  rintro s₁ ⟨output, begun⟩
  obtain ⟨found, s', course, handedOn, filed⟩ := course_of_run begun
  have accounts := accounts_of_course apart fresh none ⟨output, begun⟩ course
  exact ⟨found, s', course, handedOn, accounts.handedOn handedOn, filed⟩

theorem directory_of {baseLocation : String} {fails : Nat → Option Failure} {finds : List Diagnostic} {j : Job Nat}
    (made : Exact.job baseLocation fails finds = .ok j) : j.keeper.cwd = "/w" := by
  obtain ⟨_, _, _, -, directory, _⟩ := Job.of_eq_ok made
  exact directory

/-- The exact backend leaves the warnings file alone. -/
theorem spares_of_exact {baseLocation : String} {fails : Nat → Option Failure} {finds : List Diagnostic} {j : Job Nat}
    (made : Exact.job baseLocation fails finds = .ok j) :
    j.keeper.backend.Spares j.keeper.cwd j.plts j.keeper.output := by
  obtain ⟨_, _, _, sameBackend, directory, _⟩ := Job.of_eq_ok made
  have apart := Job.apart_of made
  rw [directory] at apart ⊢
  rw [sameBackend]
  exact Exact.spares apart

/-- Three analyses with one warning each. -/
theorem accounts_of_fresh_project : ∃ j o s' found,
    Exact.job "/w/s" (fun _ => none) [⟨"a.erl", 3, "no", none, none⟩] = .ok j ∧
    j.run Exact.session = .ok o s' ∧ o.status = .warnings ∧ o.warnings = 3 ∧ s'.total = 3 ∧
    (allCounted found).length = 3 ∧ s'.tree.bytesAt? "/w" j.keeper.output =
      some (Keeper.reportBytes ((allCounted found).map Diagnostic.reported)) := by
  have checked : checkRun (Exact.job "/w/s" (fun _ => none) [⟨"a.erl", 3, "no", none, none⟩])
      Exact.session (fun j o s' => o.status = .warnings && s'.total = 3 &&
        j.keeper.beginReport.check (j.opened Exact.session) fun _ _ => true) = true := by decide +kernel
  obtain ⟨j, o, s', made, ran, checked⟩ := of_checkRun checked
  simp only [Bool.and_eq_true, decide_eq_true_eq] at checked
  obtain ⟨⟨warned, three⟩, begins⟩ := checked
  obtain ⟨output, s₁, begun, -⟩ := Act.of_check begins
  obtain ⟨-, ends, settled, -⟩ := accounts_of_run made (s := Exact.session) rfl rfl
  obtain ⟨found, _, _, _, accounts, filedFront, filed⟩ := ends s₁ ⟨output, begun⟩
  rw [Act.after_of_ok ran] at accounts
  have filed := filed o s' ran (by rw [warned]; decide)
  obtain ⟨front, holds, ends⟩ := accounts.front (spares_of_exact made) filedFront
  have nothing : front = [] := by
    rcases ends with none | ⟨f, last, unfiled, -⟩
    · exact none
    · exact absurd (filed f (List.mem_of_getLast? last)) (by simp [unfiled])
  rw [nothing, List.append_nil, directory_of made] at holds
  refine ⟨j, o, s', found, made, ran, warned, ?_, three, accounts.total.symm.trans three, holds⟩
  rw [((settled o s' ran).warnings warned).1, three]
  rfl

/-- A run in whose first report the second line cannot be encoded. -/
def spoiledJob : Except Failure (Job Nat) :=
  Exact.job "/w/s" (fun _ => none)
    [⟨"a.erl", 3, "no", none, none⟩, ⟨"b.erl", 4, String.ofList [Text.half 0xdcff], none, none⟩]

/-- The first line of a report that fails at its second stays in the warnings file, and is not counted. Nor is each
line shown as it is filed. -/
theorem accounts_counterexample :
    (¬ ∀ (host : Host) (backend : Backend Nat) (settings : Settings) (project : Project) (runtime : OtpRuntime)
      (j : Job Nat) (s s₁ : Session Nat), Job.of host backend settings project runtime = .ok j → s.total = 0 →
      s.phases = [] → j.Begins s s₁ → backend.Spares host.cwd j.plts j.keeper.output →
      ∃ ds : List Diagnostic, (j.run.after s).total = ds.length ∧
        (j.run.after s).tree.bytesAt? host.cwd j.keeper.output = some (Keeper.reportBytes (ds.map Diagnostic.reported))) ∧
    ¬ ∀ (screen : Console.Screen) (d : Diagnostic), Console.reported screen d.reported = d.reported ++ "\n" := by
  refine ⟨fun claim => ?_, fun claim => ?_⟩
  · have checked : (match spoiledJob with
        | .error _ => false
        | .ok j => j.keeper.beginReport.check (j.opened Exact.session) (fun _ _ => true) &&
          (j.run.after Exact.session).total = 0 &&
          (j.run.after Exact.session).tree.bytesAt? "/w" j.keeper.output =
            some (Text.Utf8.encode "a.erl:3: no\n")) = true := by decide +kernel
    split at checked
    · cases checked
    rename_i j made
    simp only [Bool.and_eq_true, decide_eq_true_eq] at checked
    obtain ⟨⟨begins, zero⟩, holds⟩ := checked
    obtain ⟨output, s₁, begun, -⟩ := Act.of_check begins
    obtain ⟨_, _, _, sameBackend, directory, _⟩ := Job.of_eq_ok made
    have spares := spares_of_exact made
    rw [sameBackend, directory] at spares
    obtain ⟨ds, counted, whole⟩ := claim Exact.host _ _ _ _ j Exact.session s₁ made rfl rfl ⟨output, begun⟩ spares
    obtain rfl : ds = [] := List.length_eq_zero_iff.mp (counted.symm.trans zero)
    exact absurd (whole.symm.trans holds) (by decide +kernel)
  · exact absurd (claim {} ⟨"a.erl", 3, "no\x07", none, none⟩) (by decide +kernel)

end Job

end PltKeeper
