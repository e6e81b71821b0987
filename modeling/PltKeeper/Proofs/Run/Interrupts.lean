import PltKeeper.Proofs.Backend.Dialyzer.Launches
import PltKeeper.Proofs.Run.Conduct

/-! Runs that the user stops. A run that has dialyzer do the work hears of every process that is interrupted:
it ends there, and it ends as an interruption. No other run ends so. -/
namespace PltKeeper

open Act

/-- What is done in a session fails as interrupted just where the user stopped a process. -/
def heeding : Conduct Shell where
  kept s s' := s.backend.Ran s'.backend False
  broken e s s' := s.backend.Ran s'.backend (e = .interrupted)
  kept_aside := by
    rintro s _ ⟨t, log, rfl⟩
    exact Shell.ran_refl
  broken_aside := by
    rintro s _ e other ⟨t, log, rfl⟩
    exact Shell.ran_refl.congr ⟨False.elim, other⟩
  trans := Shell.Ran.trans
  breaks := Shell.Ran.trans

namespace Keeper

variable {k : Keeper Shell}

theorem accept_heeding {α : Type} {request : Request} {reply : Reply Shell α} {s : Session Shell}
    (heeds : reply.Heeds s.backend) :
    (accept request reply).Ensures s (fun _ s' => s.backend.Ran s'.backend False)
      fun e s' => s.backend.Ran s'.backend (e = .interrupted) := by
  refine ensures_accept.mpr ⟨fun a given => heeds.congr ?_, fun e failed => heeds.congr ?_⟩
  · simp [given]
  · simp [failed]

theorem modify_heeding {f : Session Shell → Session Shell} (same : ∀ s, (f s).backend = s.backend) :
    (modify f : Act Shell Unit).KeepsTo heeding := by
  intro s
  show s.backend.Ran (f s).backend False
  rw [same]
  exact Shell.ran_refl

theorem report_heeding (ds : List Diagnostic) : (k.report ds).KeepsTo heeding := by
  have counted := (modify_heeding (f := fun s => { s with total := s.total + (ds.map Diagnostic.reported).length })
    fun _ => rfl).bind fun _ => pure_keepsTo (ds.map Diagnostic.reported).length
  unfold report
  refine KeepsTo.bind (modify_heeding fun _ => rfl) fun _ => ?_
  refine KeepsTo.ite (KeepsTo.bind ?_ fun _ => counted) counted
  exact keepsTo_of_apart fun s => Apart.restate (apart_changePartly (fun _ => FileTree.undisturbed_appendTexts) s)

section
variable {d : Dialyzer} (dialyzer : k.backend = d.backend)
include dialyzer

theorem read_heeding (plt : Path) : (k.read plt).KeepsTo heeding := by
  intro s
  unfold Act.Ensures read
  rw [dialyzer]
  exact accept_heeding (Dialyzer.query_heeds plt)

theorem analyze_heeding (a : Analysis) (files : List String) (plt : Path) :
    (k.analyze a files plt).KeepsTo heeding := by
  intro s
  have heeds : (k.backend.analyze (k.wishes.optionsFor a files plt) s.tree s.backend).Heeds s.backend := by
    rw [dialyzer]
    exact Dialyzer.analyze_heeds _
  exact (ensures_analyze rfl rfl).mpr ⟨fun ds given => heeds.congr (by simp [given]),
    fun e failed => heeds.congr (by simp [failed])⟩

theorem runPhase_heeding (a : Analysis) (plt : Path) (files : List String) :
    (k.runPhase a plt files).KeepsTo heeding := by
  have phase := (analyze_heeding dialyzer a (FileSet.of k.cwd files).toList plt).bind fun ds => report_heeding (k := k) ds
  exact KeepsTo.ite (pure_keepsTo 0) fun s => ensures_recordPhase.mpr (phase s)

end

end Keeper

namespace Job

/-- How a run ends that has dialyzer do the work: complete, failed, or with a failure that escapes; and it is an
interruption that escapes just where the user stopped a process. -/
theorem run_heeds {j : Job Shell} {d : Dialyzer} (dialyzer : j.keeper.backend = d.backend) (s : Session Shell) :
    (∃ n s' s'', j.steps (j.opened s) = .ok n s' ∧ j.run s = .ok (j.completed n s'') s'' ∧
        s.backend.Ran s''.backend False) ∨
      (∃ stop s'', j.run s = .ok (j.failed stop s'') s'' ∧ s.backend.Ran s''.backend False) ∨
      ∃ e s'', j.run s = .error e s'' ∧ s.backend.Ran s''.backend (e = .interrupted) := by
  have heeds : j.steps.KeepsTo heeding :=
    steps_keepsTo (Keeper.runPhase_heeding dialyzer) (Keeper.read_heeding dialyzer)
  cases ran : j.steps (j.opened s) with
  | ok n s' =>
    have kept : s.backend.Ran s'.backend False := (heeds (j.opened s)).of_ok ran
    obtain ⟨_, ⟨path, log, rfl⟩, outcome⟩ := run_of_completed ran
    exact .inl ⟨n, s', _, rfl, outcome, kept⟩
  | error e s' =>
    have broken : s.backend.Ran s'.backend (e = .interrupted) := (heeds (j.opened s)).of_error ran
    cases reported : j.stopping? e with
    | some stop =>
      obtain ⟨_, ⟨path, log, rfl⟩, outcome⟩ := run_of_stopped ran reported
      have other : e ≠ .interrupted := by
        rintro rfl
        cases reported
      exact .inr (.inl ⟨stop, _, outcome, broken.congr (iff_of_false other id)⟩)
    | none =>
      obtain ⟨_, ⟨path, log, rfl⟩, failure⟩ := run_of_escaped ran reported
      exact .inr (.inr ⟨e, _, failure, broken⟩)

end Job

end PltKeeper
