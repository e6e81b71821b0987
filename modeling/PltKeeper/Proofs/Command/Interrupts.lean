import PltKeeper.Proofs.Run.Interrupts
import PltKeeper.Proofs.Config.FileFaults
import PltKeeper.Proofs.Command.Printing
import PltKeeper.Command.Line

/-! Commands that the user stops. The parts of a command hear of the processes that they launch. Those that set
up a run launch one at most, the question to `erl`, and are interrupted just where that is. -/
namespace PltKeeper.Command

variable {α β : Type} {m : Machine} {s s' : State}

/-! ## Parts of a command -/

/-- A part of a command that fails as interrupted just where the user stopped a process. -/
structure Step.Heeds (step : Step α) : Prop where
  ok : ∀ {s a s'}, step s = .ok a s' → s.shell.Ran s'.shell False
  error : ∀ {s e s'}, step s = .error e s' → s.shell.Ran s'.shell (e = .interrupted)

/-- A part of a command that launches nothing, and that the user cannot stop. -/
structure Step.Aside (step : Step α) : Prop where
  ok : ∀ {s a s'}, step s = .ok a s' → s'.shell = s.shell
  error : ∀ {s e s'}, step s = .error e s' → s'.shell = s.shell ∧ e ≠ .interrupted

theorem Step.Aside.heeds {step : Step α} (aside : step.Aside) : step.Heeds where
  ok ran := by
    rw [aside.ok ran]
    exact Shell.ran_refl
  error failed := by
    rw [(aside.error failed).1]
    exact Shell.ran_refl.congr ⟨False.elim, (aside.error failed).2⟩

theorem step_bind_eq_ok {step : Step α} {next : α → Step β} {b : β} :
    (step >>= next) s = .ok b s' ↔ ∃ a middle, step s = .ok a middle ∧ next a middle = .ok b s' := by
  cases ran : step s <;> simp [bind, EStateM.bind, ran]

theorem step_bind_eq_error {step : Step α} {next : α → Step β} {e : Failure} :
    (step >>= next) s = .error e s' ↔
      step s = .error e s' ∨ ∃ a middle, step s = .ok a middle ∧ next a middle = .error e s' := by
  cases ran : step s <;> simp [bind, EStateM.bind, ran]

theorem Step.Heeds.bind {step : Step α} {next : α → Step β} (first : step.Heeds) (second : ∀ a, (next a).Heeds) :
    Step.Heeds (step >>= next) where
  ok ran := by
    obtain ⟨a, middle, here, later⟩ := step_bind_eq_ok.mp ran
    exact (first.ok here).trans ((second a).ok later)
  error failed := by
    rcases step_bind_eq_error.mp failed with here | ⟨a, middle, here, later⟩
    · exact first.error here
    · exact (first.ok here).trans ((second a).error later)

theorem Step.Aside.bind {step : Step α} {next : α → Step β} (first : step.Aside) (second : ∀ a, (next a).Aside) :
    Step.Aside (step >>= next) where
  ok ran := by
    obtain ⟨a, middle, here, later⟩ := step_bind_eq_ok.mp ran
    rw [(second a).ok later, first.ok here]
  error failed := by
    rcases step_bind_eq_error.mp failed with here | ⟨a, middle, here, later⟩
    · exact first.error here
    · rw [← first.ok here]
      exact (second a).error later

theorem aside_pure (a : α) : Step.Aside (pure a : Step α) where
  ok ran := by cases ran; rfl
  error failed := by cases failed

theorem aside_print (screen : Console.Screen) (text : String) : Step.Aside (print screen text) := by
  by_cases printable : Printable screen text.toList
  · have printed := print_of_printable printable
    exact ⟨fun {s _ _} ran => by cases (printed s).symm.trans ran; rfl,
      fun {s _ _} failed => nomatch (printed s).symm.trans failed⟩
  · constructor
    · intro s _ _ ran
      obtain ⟨fault, failed⟩ := print_of_unprintable printable s
      exact nomatch failed.symm.trans ran
    · intro s _ _ failed
      obtain ⟨fault, failed'⟩ := print_of_unprintable printable s
      cases failed'.symm.trans failed
      exact ⟨rfl, nofun⟩

theorem aside_lift {r : Except Failure α} (undisturbed : Undisturbed r) : Step.Aside (lift r) := by
  cases r with
  | ok a => exact ⟨by rintro _ _ _ ⟨⟩; rfl, by rintro _ _ _ ⟨⟩⟩
  | error e => exact ⟨by rintro _ _ _ ⟨⟩, by rintro _ _ _ ⟨⟩; exact ⟨rfl, undisturbed e rfl⟩⟩

theorem aside_printMessage {screen : Console.Screen} {text : Except Failure String} (undisturbed : Undisturbed text) :
    Step.Aside (printMessage screen text) := by
  cases text with
  | ok text => exact aside_print screen text
  | error e => exact ⟨by rintro _ _ _ ⟨⟩, by rintro _ _ _ ⟨⟩; exact ⟨rfl, undisturbed e rfl⟩⟩

theorem aside_makeLogDir {dir : String} : Step.Aside (makeLogDir m dir) := by
  have known : Undisturbed (Log.threshold "DEBUG") := by
    unfold Log.threshold
    split
    · exact OnlyFails.ok _
    · exact OnlyFails.error nofun
  have added (t : FileTree) : Undisturbed ((⟨0, false, none, none⟩ : Log.Sinks).addDirectory m.host.cwd m.now
      (Path.parse dir) (Log.threshold "DEBUG") t).1 := undisturbed_addDirectory known
  constructor <;> intro s a s' ran <;> unfold makeLogDir at ran <;> dsimp only at ran <;> split at ran <;> cases ran
  · rfl
  · rename_i e failed
    exact ⟨rfl, added s.tree _ failed⟩

theorem aside_writeSummary {file : String} {o : Outcome} : Step.Aside (writeSummary m file o) := by
  constructor <;> intro s a s' ran <;> unfold writeSummary at ran <;> dsimp only at ran <;> split at ran <;> cases ran
  · rfl
  · rename_i failed
    exact ⟨rfl, FileTree.undisturbed_modifyNamed _ failed⟩

theorem aside_printOutcome {o : Outcome} : Step.Aside (printOutcome m o) := by
  unfold printOutcome
  dsimp only
  split
  · exact aside_printMessage Console.undisturbed_message
  · exact aside_print _ _
  · exact aside_printMessage Console.undisturbed_message

theorem aside_conclude {o : AnalyzeOptions} {outcome : Outcome} : Step.Aside (conclude m o outcome) := by
  unfold conclude
  split
  · exact aside_writeSummary.bind fun _ => aside_printOutcome.bind fun _ => aside_pure _
  · exact aside_printOutcome.bind fun _ => aside_pure _

/-! ## Setting up a run -/

/-- How a configuration has dialyzer launched. -/
def dialyzerOf (m : Machine) (c : Config) : Dialyzer where
  host := m.host
  programs := m.programs
  executable := (runtimeValue c "dialyzer").display
  limit := Dialyzer.limitOf (runtimeValue c "timeout")

/-- The run that a configuration asks for with a runtime. -/
def jobOf (m : Machine) (root : Path) (options : List (String × Json)) (c : Config) (runtime : OtpRuntime) :
    Except Failure (Job Shell) := do
  let settings ← Settings.ofDocument m.host root c.document
  let settings ← settings.override options
  let project ← Project.ofDocument m.host root c.document
  Job.of m.host (dialyzerOf m c).backend settings project runtime

theorem of_jobOf {root : Path} {options : List (String × Json)} {c : Config} {runtime : OtpRuntime} {job : Job Shell}
    (made : jobOf m root options c runtime = .ok job) :
    ∃ settings settings' project, Settings.ofDocument m.host root c.document = .ok settings ∧
      settings.override options = .ok settings' ∧
      Job.of m.host (dialyzerOf m c).backend settings' project runtime = .ok job := by
  obtain ⟨settings, documented, made⟩ := bind_ok_iff.mp made
  obtain ⟨settings', overridden, made⟩ := bind_ok_iff.mp made
  obtain ⟨project, -, made⟩ := bind_ok_iff.mp made
  exact ⟨settings, settings', project, documented, overridden, made⟩

theorem lift_bind (r : Except Failure α) (f : α → Except Failure β) :
    (lift (r >>= f) : Step β) = lift r >>= fun a => lift (f a) := by
  cases r <;> rfl

/-- A run is set up in three steps: the configuration, the runtime, and what needs no more than these. -/
theorem setUp_eq (root : String) (options : List (String × Json)) :
    setUp m root options = (do
      let c ← loadConfig m (Path.parse root)
      let runtime ← findRuntime m c (Dialyzer.limitOf (runtimeValue c "timeout"))
      lift (jobOf m (Path.parse root) options c runtime)) := by
  simp only [setUp, jobOf, lift_bind]
  rfl

theorem undisturbed_jobOf {root : Path} {options : List (String × Json)} {c : Config} {runtime : OtpRuntime} :
    Undisturbed (jobOf m root options c runtime) :=
  undisturbed_settings.bind fun _ _ => undisturbed_override.bind fun _ _ =>
    undisturbed_project.bind fun _ _ => undisturbed_job

theorem aside_loadConfig {root : Path} : Step.Aside (loadConfig m root) := by
  constructor <;> intro s a s' ran <;> unfold loadConfig at ran <;> split at ran <;> cases ran
  · rfl
  · rename_i failed
    refine ⟨rfl, ?_⟩
    cases Config.load_error_iff.mp failed <;> exact nofun

theorem heeds_findRuntime {c : Config} {limit : Option Json} : Step.Heeds (findRuntime m c limit) := by
  constructor <;> intro s a s' ran <;> unfold findRuntime at ran <;> dsimp only at ran <;> split at ran <;> cases ran
  · rename_i found
    exact OtpRuntime.resolve_heeds.congr (by simp [found])
  · rename_i failed
    exact OtpRuntime.resolve_heeds.congr (by simp [failed])

theorem setUp_heeds {root : String} {options : List (String × Json)} : Step.Heeds (setUp m root options) := by
  rw [setUp_eq]
  exact aside_loadConfig.heeds.bind fun c => heeds_findRuntime.bind fun _ => (aside_lift undisturbed_jobOf).heeds

/-- The user stops the question to `erl` that a run of this root begins with: the configuration is there, it
leaves the question open, there is such a program, and its process is interrupted. -/
def StopsProbe (m : Machine) (root : String) (s : State) : Prop :=
  ∃ c log, Config.load m.host s.tree (Path.parse root) = .ok (c, log) ∧
    ((runtimeValue c "otp_release").display = "" ∨ (runtimeValue c "otp_root").display = "") ∧
    (m.programs.find? (runtimeValue c "erl").display).isSome = true ∧
    ∃ p, s.shell.pending.head? = some p ∧ p.ended = .interrupted

theorem findRuntime_eq_interrupted {c : Config} {limit : Option Json} :
    (∃ s', findRuntime m c limit s = .error .interrupted s') ↔
      ((runtimeValue c "otp_release").display = "" ∨ (runtimeValue c "otp_root").display = "") ∧
        (m.programs.find? (runtimeValue c "erl").display).isSome = true ∧
        ∃ p, s.shell.pending.head? = some p ∧ p.ended = .interrupted := by
  have asked : (∃ s', findRuntime m c limit s = .error .interrupted s') ↔
      (OtpRuntime.resolve m.host m.programs (runtimeValue c "otp_release").display (runtimeValue c "otp_root").display
        (runtimeValue c "erl").display (some (limit.getD (.int 30))) s.tree s.shell).result =
          .error .interrupted := by
    unfold findRuntime
    dsimp only
    split
    · rename_i found
      simp [found]
    · rename_i e failed
      simp [failed]
  rw [asked]
  rcases OtpRuntime.resolve_cases with ⟨release, root, -, undisturbed⟩ | ⟨lacking, -, answer⟩
  · refine iff_of_false (fun interrupted => undisturbed _ interrupted rfl) fun ⟨lacking, _⟩ => ?_
    exact lacking.elim release root
  · rw [answer, OtpRuntime.probe_eq_interrupted]
    exact (and_iff_right lacking).symm

/-- Setting up a run is interrupted just where the question to `erl` is. -/
theorem setUp_eq_interrupted {root : String} {options : List (String × Json)} :
    (∃ s', setUp m root options s = .error .interrupted s') ↔ StopsProbe m root s := by
  rw [setUp_eq]
  constructor
  · rintro ⟨s', failed⟩
    rcases step_bind_eq_error.mp failed with failed | ⟨c, s₁, loaded, failed⟩
    · exact absurd rfl (aside_loadConfig.error failed).2
    rcases step_bind_eq_error.mp failed with failed | ⟨runtime, s₂, found, failed⟩
    · have asked := findRuntime_eq_interrupted.mp ⟨s', failed⟩
      unfold loadConfig at loaded
      split at loaded
      · rename_i c log ran
        cases loaded
        exact ⟨_, log, ran, asked⟩
      · cases loaded
    · exact absurd rfl ((aside_lift undisturbed_jobOf).error failed).2
  · rintro ⟨c, log, loaded, asked⟩
    have ran : loadConfig m (Path.parse root) s = .ok c { s with log := s.log ++ log } := by
      simp only [loadConfig, loaded]
    obtain ⟨s', failed⟩ : ∃ s', findRuntime m c (Dialyzer.limitOf (runtimeValue c "timeout"))
        { s with log := s.log ++ log } = .error .interrupted s' := findRuntime_eq_interrupted.mpr asked
    exact ⟨s', step_bind_eq_error.mpr (.inr ⟨c, _, ran, step_bind_eq_error.mpr (.inl failed)⟩)⟩

/-- What is set up is the run of some configuration and some runtime. -/
theorem jobOf_of_setUp {root : String} {options : List (String × Json)} {job : Job Shell}
    (ran : setUp m root options s = .ok job s') : ∃ c runtime, jobOf m (Path.parse root) options c runtime = .ok job := by
  rw [setUp_eq] at ran
  obtain ⟨c, s₁, -, ran⟩ := step_bind_eq_ok.mp ran
  obtain ⟨runtime, s₂, -, ran⟩ := step_bind_eq_ok.mp ran
  refine ⟨c, runtime, ?_⟩
  cases here : jobOf m (Path.parse root) options c runtime with
  | ok job' =>
    rw [here] at ran
    cases ran
    rfl
  | error e =>
    rw [here] at ran
    cases ran

/-- Dialyzer does the work of it. -/
theorem of_setUp {root : String} {options : List (String × Json)} {job : Job Shell}
    (ran : setUp m root options s = .ok job s') : ∃ (d : Dialyzer) (settings : Settings) (project : Project)
      (runtime : OtpRuntime), Job.of m.host d.backend settings project runtime = .ok job := by
  obtain ⟨c, runtime, made⟩ := jobOf_of_setUp ran
  obtain ⟨_, settings, project, -, -, made⟩ := of_jobOf made
  exact ⟨dialyzerOf m c, settings, project, runtime, made⟩

/-- A run that is set up has dialyzer do the work. -/
theorem backend_of_setUp {root : String} {options : List (String × Json)} {job : Job Shell}
    (ran : setUp m root options s = .ok job s') : ∃ d : Dialyzer, job.keeper.backend = d.backend := by
  obtain ⟨d, _, _, _, made⟩ := of_setUp ran
  obtain ⟨_, _, _, sameBackend, -, -⟩ := Job.of_eq_ok made
  exact ⟨d, sameBackend⟩

end PltKeeper.Command
