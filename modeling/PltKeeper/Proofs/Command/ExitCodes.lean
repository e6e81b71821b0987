import PltKeeper.Proofs.Command.Crashes
import PltKeeper.Proofs.Command.Interrupts

/-! What the exit code of an analysis says. An analysis that is asked for ends in one of five ways: its run
completes, something fatal happens, the user stops a process, in its run or while it is set up, or it fails and that
cannot be recorded. Each has an exit code of its own but for the last two, which look like a run that found
warnings. -/
namespace PltKeeper.Command

open Console Text

variable {m : Machine} {o : AnalyzeOptions} {s s' : State} {arguments : List String}

/-! ## Invocations -/

/-- The arguments ask for an analysis with these options. -/
def Invokes (arguments : List String) (o : AnalyzeOptions) : Prop :=
  ∃ rest given, readArguments programSpecs false none arguments = .ok ([], "dialyzer" :: rest) ∧
    readArguments analyzeSpecs true none rest = .ok (given, []) ∧ has given helpOption = false ∧
    analyzeOptions given = .ok o

/-- What an analysis leaves behind. -/
def ending (m : Machine) (o : AnalyzeOptions) (s : State) : Ended := conduct m o.root "dialyzer" (analyze m o) s

theorem run_of_invokes (invokes : Invokes arguments o) : run m arguments s = ending m o s := by
  obtain ⟨rest, given, program, command, noHelp, options⟩ := invokes
  simp [run, withProgramOptions, program, withArguments, command, noHelp, options, ending]

/-- What comes before a run is set up: the log directory is made, if one is asked for. -/
def prepare (m : Machine) (o : AnalyzeOptions) : Step Unit :=
  match nonempty? o.logDir with
  | some dir => makeLogDir m dir
  | none => pure ()

/-- What a caller chooses in place of the configuration. -/
def choicesOf (o : AnalyzeOptions) : List (String × Json) :=
  [("update_plt", ofChoice o.updatePlt), ("succ_typings", ofChoice o.succTypings)]

theorem analyze_eq : analyze m o = (do
    prepare m o
    orReport m (setUp m o.root (choicesOf o)) (runJob m o)) := by
  unfold analyze prepare
  cases nonempty? o.logDir with
  | some dir => rfl
  | none => rfl

theorem aside_prepare : Step.Aside (prepare m o) := by
  unfold prepare
  split
  · exact aside_makeLogDir
  · exact aside_pure _

/-- The run that is asked for completes with so many warnings. -/
def Completes (m : Machine) (o : AnalyzeOptions) (s : State) (n : Nat) : Prop :=
  ∃ s₁ job s₂ s₃, prepare m o s = .ok () s₁ ∧ setUp m o.root (choicesOf o) s₁ = .ok job s₂ ∧
    job.steps (job.opened s₂.session) = .ok n s₃

/-- The user stops the question to `erl` with which the run is set up that is asked for. -/
def ProbeInterrupted (m : Machine) (o : AnalyzeOptions) (s : State) : Prop :=
  ∃ s₁, prepare m o s = .ok () s₁ ∧ StopsProbe m o.root s₁

theorem not_probeInterrupted_of_ready {s₁ s₂ : State} {job : Job Shell} (prepared : prepare m o s = .ok () s₁)
    (ready : setUp m o.root (choicesOf o) s₁ = .ok job s₂) : ¬ ProbeInterrupted m o s := by
  rintro ⟨s₁', prepared', stops⟩
  cases prepared.symm.trans prepared'
  obtain ⟨s', failed⟩ := setUp_eq_interrupted.mpr stops
  cases ready.symm.trans failed

theorem not_completes_of_probe (probe : ProbeInterrupted m o s) (n : Nat) : ¬ Completes m o s n := by
  rintro ⟨s₁, job, s₂, s₃, prepared, ready, -⟩
  exact not_probeInterrupted_of_ready prepared ready probe

/-- The analysis fails in a way that it does not report, and that cannot be recorded. -/
def Unlogged (m : Machine) (o : AnalyzeOptions) (s : State) : Prop :=
  ∃ e s', analyze m o s = .error e s' ∧ e ≠ .interrupted ∧ Unrecordable m o.root "dialyzer" e s'.tree

/-! ## Ways to end -/

/-- How an analysis ends, with its exit code and what became of its processes. -/
inductive Came (m : Machine) (o : AnalyzeOptions) (s : State) (ended : Ended) : Prop
  | completed {n : Nat} (clear : ¬ ProbeInterrupted m o s) (logged : ¬ Unlogged m o s) (ran : Completes m o s n)
      (left : s.shell.Ran ended.state.shell False) (code : ended.code = if n = 0 then 0 else 1)
  | fatal (clear : ¬ ProbeInterrupted m o s) (logged : ¬ Unlogged m o s) (left : s.shell.Ran ended.state.shell False)
      (code : ended.code = 2)
  | interrupted (clear : ¬ ProbeInterrupted m o s) (logged : ¬ Unlogged m o s)
      (left : s.shell.Ran ended.state.shell True) (code : ended.code = 130)
  | aborted (probe : ProbeInterrupted m o s) (logged : ¬ Unlogged m o s)
      (left : s.shell.Ran ended.state.shell True) (code : ended.code = 1)
  | unlogged (clear : ¬ ProbeInterrupted m o s) (unlogged : Unlogged m o s)
      (left : s.shell.Ran ended.state.shell False) (code : ended.code = 1)

/-- A failure that is no interruption is shown as a crash, if it can be recorded. -/
theorem conduct_of_error (m : Machine) (root name : String) {step : Step ExitCode} {e : Failure}
    (failed : step s = .error e s') (other : e ≠ .interrupted) :
    (conduct m root name step s).state = crashed m root name e s' ∧
      (Unrecordable m root name e s'.tree → (conduct m root name step s).code = 1) ∧
      (¬ Unrecordable m root name e s'.tree → (conduct m root name step s).code = 2) := by
  by_cases unrecordable : Unrecordable m root name e s'.tree
  · obtain ⟨cause, ended⟩ := crash_eq_error unrecordable
    have same : conduct m root name step s = ⟨1, "", crashed m root name e s'⟩ := by
      unfold conduct
      cases e with
      | interrupted => exact absurd rfl other
      | _ => simp only [failed, ended]
    rw [same]
    exact ⟨rfl, fun _ => rfl, fun recordable => absurd unrecordable recordable⟩
  · obtain ⟨shown, ended⟩ := crash_eq_ok unrecordable
    have same : conduct m root name step s =
        ⟨ExitCode.fatalError.number, Text.spelled shown, crashed m root name e s'⟩ := by
      unfold conduct
      cases e with
      | interrupted => exact absurd rfl other
      | _ => simp only [failed, ended]
    rw [same]
    exact ⟨rfl, fun unrecordable' => absurd unrecordable' unrecordable, fun _ => rfl⟩

theorem not_unlogged_of_ok {code : ExitCode} (ran : analyze m o s = .ok code s') : ¬ Unlogged m o s := by
  rintro ⟨e, _, failed, -⟩
  exact nomatch ran.symm.trans failed

theorem not_unlogged_of_interrupted (failed : analyze m o s = .error .interrupted s') : ¬ Unlogged m o s := by
  rintro ⟨e, _, failed', other, -⟩
  cases failed.symm.trans failed'
  exact other rfl

theorem came_of_error {e : Failure} (clear : ¬ ProbeInterrupted m o s) (failed : analyze m o s = .error e s')
    (other : e ≠ .interrupted) (left : s.shell.Ran s'.shell False) : Came m o s (ending m o s) := by
  obtain ⟨state, unlogged, logged⟩ := conduct_of_error m o.root "dialyzer" failed other
  have left : s.shell.Ran (ending m o s).state.shell False := by
    rw [ending, state]
    exact left
  by_cases unrecordable : Unrecordable m o.root "dialyzer" e s'.tree
  · exact .unlogged clear ⟨e, s', failed, other, unrecordable⟩ left (unlogged unrecordable)
  · refine .fatal clear ?_ left (logged unrecordable)
    rintro ⟨_, _, failed', -, unrecordable'⟩
    cases failed.symm.trans failed'
    exact unrecordable unrecordable'

/-- Where nothing is launched any more, an analysis ends with the code that is left, unless it fails. -/
theorem came_of_aside {last : Step ExitCode} (clear : ¬ ProbeInterrupted m o s) (same : analyze m o s = last s')
    (aside : last.Aside) (left : s.shell.Ran s'.shell False) : Came m o s (ending m o s) ∨
      ¬ Unlogged m o s ∧ s.shell.Ran (ending m o s).state.shell False ∧
        ∃ code s'', last s' = .ok code s'' ∧ (ending m o s).code = code.number := by
  cases ran : last s' with
  | ok code s'' =>
    have done : ending m o s = ⟨code.number, "", s''⟩ := by simp only [ending, conduct, same, ran]
    refine .inr ⟨not_unlogged_of_ok (same.trans ran), ?_, code, s'', rfl, by rw [done]⟩
    rw [done, aside.ok ran]
    exact left
  | error e s'' =>
    obtain ⟨shell, other⟩ := aside.error ran
    exact .inl (came_of_error clear (same.trans ran) other (by rw [shell]; exact left))

theorem conclude_eq_ok {outcome : Outcome} {code : ExitCode} (ran : conclude m o outcome s = .ok code s') :
    code = exitCodeOf outcome.status := by
  unfold conclude at ran
  cases summary : nonempty? o.summary with
  | some file =>
    simp only [summary] at ran
    obtain ⟨_, _, -, ran⟩ := step_bind_eq_ok.mp ran
    obtain ⟨_, _, -, ran⟩ := step_bind_eq_ok.mp ran
    cases ran
    rfl
  | none =>
    simp only [summary] at ran
    obtain ⟨_, _, -, ran⟩ := step_bind_eq_ok.mp ran
    cases ran
    rfl

theorem code_completed (job : Job Shell) (n : Nat) (t : Session Shell) :
    (exitCodeOf (job.completed n t).status).number = if n = 0 then 0 else 1 := by
  unfold Job.completed
  split <;> rfl

theorem isStyle_success : IsStyle "success" :=
  ⟨by decide, by decide, List.all_iff_forall_prop.mp (by decide), by decide +kernel, by decide +kernel,
    by decide +kernel⟩

theorem isStyle_boldRed : IsStyle "bold red" :=
  ⟨by decide, by decide, List.all_iff_forall_prop.mp (by decide), by decide +kernel, by decide +kernel,
    by decide +kernel⟩

/-- It is printed that the user stopped a run. -/
theorem printStopped_eq_ok : ∃ s', printStopped m s = .ok () s' ∧ s'.shell = s.shell := by
  have read : parts "\n[bold red][INFO] Run stopped by user.[/bold red]".toList =
      flush ['\n'] ++ .tag 1 "bold red".toList ::
        (flush "[INFO] Run stopped by user.".toList.reverse ++ [.tag 38 ('/' :: "bold red".toList)]) := by decide +kernel
  have renders := (renders_flush ['\n']).append
    (renders_styled isStyle_boldRed 1 38 "[INFO] Run stopped by user.".toList.reverse)
  rw [← read] at renders
  have shown : (parts "\n[bold red][INFO] Run stopped by user.[/bold red]".toList).flatMap (Part.shown m.screen) =
      "\n[INFO] Run stopped by user.".toList := by
    rw [read]
    rfl
  obtain ⟨_, printed⟩ := printMessage_of_renders m.screen renders
    (shown ▸ printable_of_encodable (by decide +kernel)) s
  exact ⟨_, printed, rfl⟩

theorem runJob_of_ok {job : Job Shell} {outcome : Outcome} {t : Session Shell}
    (ran : job.run s.session = .ok outcome t) : runJob m o job s = conclude m o outcome (s.after m.screen t) := by
  simp only [runJob, inSession, ran]

theorem analyze_of_ready {s₁ s₂ : State} {job : Job Shell} (prepared : prepare m o s = .ok () s₁)
    (ready : setUp m o.root (choicesOf o) s₁ = .ok job s₂) : analyze m o s = runJob m o job s₂ := by
  rw [analyze_eq]
  simp only [bind, EStateM.bind, prepared, orReport, ready]

/-- The command is aborted where the user stops the question with which the run is set up. -/
theorem came_of_probe {s₁ s₂ : State} (prepared : prepare m o s = .ok () s₁)
    (failed : setUp m o.root (choicesOf o) s₁ = .error .interrupted s₂) (left : s.shell.Ran s₂.shell True) :
    Came m o s (ending m o s) := by
  have probe : ProbeInterrupted m o s := ⟨s₁, prepared, setUp_eq_interrupted.mp ⟨s₂, failed⟩⟩
  have done : analyze m o s = .error .interrupted s₂ := by
    rw [analyze_eq]
    simp only [bind, EStateM.bind, prepared, orReport, failed]
  have ended : ending m o s = ⟨1, "\nAborted!\n", s₂⟩ := by simp only [ending, conduct, done]
  rw [ended]
  exact .aborted probe (not_unlogged_of_interrupted done) left rfl

/-- A failure that the tool reports ends the command with its message. -/
theorem came_of_reported {s₂ : State} {cause : ToolError} (clear : ¬ ProbeInterrupted m o s)
    (same : analyze m o s = (do
      printMessage m.screen (Console.error m.screen cause.message)
      return ExitCode.fatalError : Step ExitCode) s₂)
    (unstopped : s.shell.Ran s₂.shell False) : Came m o s (ending m o s) := by
  have aside : Step.Aside (do
      printMessage m.screen (Console.error m.screen cause.message)
      return ExitCode.fatalError : Step ExitCode) :=
    (aside_printMessage Console.undisturbed_message).bind fun _ => aside_pure _
  rcases came_of_aside clear same aside unstopped with came | ⟨logged, left, code, s₃, done, number⟩
  · exact came
  · obtain ⟨_, _, -, done⟩ := step_bind_eq_ok.mp done
    cases done
    exact .fatal clear logged left number

/-- A run that cannot be set up ends the command as a fatal error does, unless the user stopped the question. -/
theorem came_of_unready {s₁ s₂ : State} {e : Failure} (prepared : prepare m o s = .ok () s₁)
    (failed : setUp m o.root (choicesOf o) s₁ = .error e s₂) :
    Came m o s (ending m o s) := by
  have left : s.shell.Ran s₂.shell (e = .interrupted) := by
    rw [← aside_prepare.ok prepared]
    exact setUp_heeds.error failed
  by_cases stopped : e = .interrupted
  · subst stopped
    exact came_of_probe prepared failed (left.congr (iff_of_true rfl trivial))
  · have clear : ¬ ProbeInterrupted m o s := by
      rintro ⟨s₁', prepared', stops⟩
      cases prepared.symm.trans prepared'
      obtain ⟨s', interrupted⟩ := setUp_eq_interrupted.mpr stops
      cases failed.symm.trans interrupted
      exact stopped rfl
    have unstopped : s.shell.Ran s₂.shell False := left.congr (iff_of_false stopped id)
    have reported : analyze m o s = orReport m (setUp m o.root (choicesOf o)) (runJob m o) s₁ := by
      rw [analyze_eq]
      simp only [bind, EStateM.bind, prepared]
    by_cases isTool : ∃ cause, e = .tool cause
    · obtain ⟨cause, rfl⟩ := isTool
      have same : analyze m o s = (do
          printMessage m.screen (Console.error m.screen cause.message)
          return ExitCode.fatalError : Step ExitCode) s₂ := by
        rw [reported]
        simp only [orReport, failed]
      exact came_of_reported clear same unstopped
    · have same : analyze m o s = .error e s₂ := by
        rw [reported]
        simp only [orReport, failed]
        cases e with
        | tool cause => exact absurd ⟨cause, rfl⟩ isTool
        | _ => rfl
      exact came_of_error clear same stopped unstopped

/-- A run that is set up ends the command with its outcome, or as its interruption. -/
theorem came_of_ready {s₁ s₂ : State} {job : Job Shell} (prepared : prepare m o s = .ok () s₁)
    (ready : setUp m o.root (choicesOf o) s₁ = .ok job s₂) :
    Came m o s (ending m o s) := by
  have clear := not_probeInterrupted_of_ready prepared ready
  have before : s.shell.Ran s₂.shell False := by
    rw [← aside_prepare.ok prepared]
    exact setUp_heeds.ok ready
  have whole := analyze_of_ready prepared ready
  obtain ⟨d, dialyzer⟩ := backend_of_setUp ready
  rcases Job.run_heeds dialyzer s₂.session with ⟨n, t', t, steps, ran, left⟩ | ⟨stop, t, ran, left⟩ | ⟨e, t, ran, left⟩
  · have same := whole.trans (runJob_of_ok (m := m) (o := o) ran)
    rcases came_of_aside clear same aside_conclude (before.trans left) with came | ⟨logged, left, code, s₃, done, number⟩
    · exact came
    · refine .completed clear logged ⟨s₁, job, s₂, t', prepared, ready, steps⟩ left ?_
      rw [number, conclude_eq_ok done, code_completed]
  · have same := whole.trans (runJob_of_ok (m := m) (o := o) ran)
    rcases came_of_aside clear same aside_conclude (before.trans left) with came | ⟨logged, left, code, s₃, done, number⟩
    · exact came
    · refine .fatal clear logged left ?_
      rw [number, conclude_eq_ok done]
      rfl
  · by_cases stopped : e = .interrupted
    · subst stopped
      obtain ⟨s₃, printed, same⟩ := printStopped_eq_ok (m := m) (s := s₂.after m.screen t)
      have done : analyze m o s = .ok .interrupted s₃ := by
        rw [whole]
        simp only [runJob, inSession, ran, bind, EStateM.bind, printed]
        rfl
      have ended : ending m o s = ⟨130, "", s₃⟩ := by
        simp only [ending, conduct, done]
        rfl
      rw [ended]
      refine .interrupted clear (not_unlogged_of_ok done) ?_ rfl
      show s.shell.Ran s₃.shell True
      rw [same]
      exact before.trans (left.congr (iff_of_true rfl trivial))
    · have same : analyze m o s = .error e (s₂.after m.screen t) := by
        rw [whole]
        simp only [runJob, inSession, ran]
      exact came_of_error clear same stopped (before.trans (left.congr (iff_of_false stopped id)))

/-- An analysis ends in one of the ways there are. -/
theorem came : Came m o s (ending m o s) := by
  cases prepared : prepare m o s with
  | error e s₁ =>
    have clear : ¬ ProbeInterrupted m o s := fun ⟨_, prepared', _⟩ => by cases prepared.symm.trans prepared'
    have failed : analyze m o s = .error e s₁ := by
      rw [analyze_eq]
      exact step_bind_eq_error.mpr (.inl prepared)
    obtain ⟨same, other⟩ := aside_prepare.error prepared
    exact came_of_error clear failed other (by rw [same]; exact Shell.ran_refl)
  | ok _ s₁ =>
    cases ready : setUp m o.root (choicesOf o) s₁ with
    | error e s₂ => exact came_of_unready prepared ready
    | ok job s₂ => exact came_of_ready prepared ready

/-! ## What the exit code says -/

/-- The exit code says what happened: that the run completed without warnings or with some, or that the user
stopped a process, and otherwise that something fatal did. -/
structure CodeFits (m : Machine) (o : AnalyzeOptions) (s : State) (ended : Ended) : Prop where
  /-- Zero is for completed runs without warnings. -/
  success : ended.code = 0 → Completes m o s 0
  /-- One is for completed runs with warnings. -/
  warnings : ended.code = 1 → ∃ n, 0 < n ∧ Completes m o s n
  /-- There is a code for processes that the user stopped, and for nothing else. -/
  interrupted : ended.code = 130 ↔ s.shell.Interrupted ended.state.shell
  /-- There is one more code. -/
  other : ended.code ∈ [0, 1, 130, 2]

theorem Came.codeFits_iff {ended : Ended} (came : Came m o s ended) : CodeFits m o s ended ↔
    ¬ ProbeInterrupted m o s ∧ (Unlogged m o s → ∃ n, 0 < n ∧ Completes m o s n) := by
  cases came with
  | @completed n clear logged ran left code =>
    refine iff_of_true ⟨fun zero => ?_, fun one => ?_, ?_, ?_⟩ ⟨clear, fun unlogged => absurd unlogged logged⟩
    · cases n with
      | zero => exact ran
      | succ n => simp [zero] at code
    · refine ⟨n, Nat.pos_of_ne_zero fun none => ?_, ran⟩
      simp [none, one] at code
    · rw [left.2, code]
      split <;> decide
    · rw [code]
      split <;> decide
  | fatal clear logged left code =>
    exact iff_of_true ⟨by simp [code], by simp [code], by simp [left.2, code], by simp [code]⟩
      ⟨clear, fun unlogged => absurd unlogged logged⟩
  | interrupted clear logged left code =>
    exact iff_of_true ⟨by simp [code], by simp [code], by simp [left.2, code], by simp [code]⟩
      ⟨clear, fun unlogged => absurd unlogged logged⟩
  | aborted probe _ left code =>
    refine iff_of_false (fun fits => ?_) fun ⟨clear, _⟩ => clear probe
    obtain ⟨n, -, ran⟩ := fits.warnings code
    exact not_completes_of_probe probe n ran
  | unlogged clear unlogged left code =>
    constructor
    · exact fun fits => ⟨clear, fun _ => fits.warnings code⟩
    · rintro ⟨-, warned⟩
      exact ⟨by simp [code], fun _ => warned unlogged, by simp [left.2, code], by simp [code]⟩

/-! ## What is printed of an outcome -/

/-- A message of success has its first word in a style. -/
theorem success_eq_ok (screen : Screen) :
    ∃ shown, Console.success screen "No dialyzer warnings" = .ok shown ∧ Printable screen shown.toList := by
  have read : parts ("[success]OK:[/success] " ++ "No dialyzer warnings").toList =
      .tag 0 "success".toList :: (flush "OK:".toList.reverse ++ [.tag 12 ('/' :: "success".toList)]) ++
        flush " No dialyzer warnings".toList.reverse := by decide +kernel
  have renders := (renders_styled isStyle_success 0 12 "OK:".toList.reverse).append
    (renders_flush " No dialyzer warnings".toList.reverse)
  rw [← read] at renders
  have shown : (parts ("[success]OK:[/success] " ++ "No dialyzer warnings").toList).flatMap (Part.shown screen) =
      "OK: No dialyzer warnings".toList := by
    rw [read]
    rfl
  refine ⟨_, message_of_shown screen renders, Printable.of_wrap ?_⟩
  rw [shown]
  exact printable_of_encodable (by decide +kernel)

/-- What is printed of an outcome. -/
def reportOf (screen : Screen) (outcome : Outcome) : Except Failure String :=
  let error := (outcome.error.map Failure.message).getD "None"
  match outcome.status with
  | .failed => Console.error screen error
  | .warnings => .ok (Console.statusPanel screen "WARNINGS" error
      ("Warnings written to " ++ (outcome.output.map Path.text).getD "None"))
  | .success => Console.success screen "No dialyzer warnings"

theorem printOutcome_eq (outcome : Outcome) :
    printOutcome m outcome = printMessage m.screen (reportOf m.screen outcome) := by
  unfold printOutcome reportOf
  cases outcome.status <;> rfl

/-- What came of a run can be printed. -/
def Tellable (screen : Screen) (outcome : Outcome) : Prop :=
  ∃ shown, reportOf screen outcome = .ok shown ∧ Printable screen shown.toList

theorem printOutcome_of_tellable {outcome : Outcome} (tellable : Tellable m.screen outcome) (s : State) :
    ∃ shown, printOutcome m outcome s = .ok () { s with out := s.out ++ shown } := by
  obtain ⟨shown, reported, printable⟩ := tellable
  refine ⟨shown, ?_⟩
  rw [printOutcome_eq, reported]
  exact print_of_printable printable s

/-- So can the outcome of a run that completes, if it found no warnings or the path of the file with them can be. -/
theorem tellable_completed (job : Job Shell) (n : Nat) (t : Session Shell)
    (printable : n ≠ 0 → Printable m.screen job.keeper.output.text.toList) : Tellable m.screen (job.completed n t) := by
  by_cases none : n = 0
  · obtain ⟨shown, printed, printable⟩ := success_eq_ok m.screen
    refine ⟨shown, ?_, printable⟩
    simp only [reportOf, Job.completed, none, if_true, printed]
  · have count : Printable m.screen (ToolError.message (.warningsFound n (some job.keeper.output))).toList := by
      show Printable m.screen ("Warnings occurred running dialyzer: " ++ toString n).toList
      rw [String.toList_append, printable_append]
      exact ⟨printable_of_encodable (by decide), printable_of_narrow (narrow_toString n)⟩
    refine ⟨_, by simp only [reportOf, Job.completed, none, if_false]; rfl, Printable.framed ?_ _⟩
    refine Printable.of_sublist ?_ List.filter_sublist
    simp only [String.toList_append, printable_append]
    refine ⟨⟨⟨⟨⟨?_, ?_⟩, ?_⟩, count⟩, ?_⟩, ?_, printable none⟩ <;> exact printable_of_encodable (by decide)

/-- Where a run puts its warnings can be printed. -/
def Addressable (m : Machine) (o : AnalyzeOptions) (s : State) : Prop :=
  ∀ s₁ job s₂, prepare m o s = .ok () s₁ → setUp m o.root (choicesOf o) s₁ = .ok job s₂ →
    Printable m.screen job.keeper.output.text.toList

/-- A run that completes has the exit code of its outcome, unless there is a summary to write. -/
theorem code_of_completes {n : Nat} (completes : Completes m o s n) (unsummed : nonempty? o.summary = none)
    (addressable : n ≠ 0 → Addressable m o s) : (ending m o s).code = if n = 0 then 0 else 1 := by
  obtain ⟨s₁, job, s₂, s₃, prepared, ready, steps⟩ := completes
  obtain ⟨t, -, ran⟩ := Job.run_of_completed steps
  have same : analyze m o s = conclude m o (job.completed n t) (s₂.after m.screen t) :=
    (analyze_of_ready prepared ready).trans (runJob_of_ok ran)
  obtain ⟨shown, printed⟩ := printOutcome_of_tellable
    (tellable_completed job n t fun some => addressable some s₁ job s₂ prepared ready) (s₂.after m.screen t)
  have concluded : conclude m o (job.completed n t) (s₂.after m.screen t) =
      .ok (exitCodeOf (job.completed n t).status)
        { s₂.after m.screen t with out := (s₂.after m.screen t).out ++ shown } := by
    simp only [conclude, unsummed, bind, EStateM.bind, printed]
    rfl
  rw [← code_completed job n t, ending, conduct, same, concluded]

/-- What the exit code of an analysis says is so, with two exceptions that both have the code of a run that found
warnings: the user stops the question to `erl`, when there was no run, and a failure cannot be recorded. It can be
where its text can be encoded and nothing is amiss with the path of the error log. -/
theorem exit_codes (invokes : Invokes arguments o) :
    (CodeFits m o s (run m arguments s) ↔
        ¬ ProbeInterrupted m o s ∧ (Unlogged m o s → ∃ n, 0 < n ∧ Completes m o s n)) ∧
      (ProbeInterrupted m o s → (run m arguments s).code = 1 ∧ (∀ n, ¬ Completes m o s n) ∧
        s.shell.Interrupted (run m arguments s).state.shell) ∧
      (Unlogged m o s → (run m arguments s).code = 1 ∧ ¬ s.shell.Interrupted (run m arguments s).state.shell) ∧
      ((errorLogPath (Path.parse o.root)).Usable →
        (∀ e s', analyze m o s = .error e s' → ∀ part ∈ logEntry m "dialyzer" e, Text.IsEncodable part) →
        ¬ Unlogged m o s) ∧
      ∀ n, Completes m o s n → nonempty? o.summary = none → (n ≠ 0 → Addressable m o s) →
        (run m arguments s).code = if n = 0 then 0 else 1 := by
  rw [run_of_invokes invokes]
  refine ⟨came.codeFits_iff, fun probe => ?_, fun unlogged => ?_, fun usable encodable => ?_, fun n => code_of_completes⟩
  · cases (came : Came m o s (ending m o s)) with
    | aborted _ _ left code => exact ⟨code, not_completes_of_probe probe, left.2.mpr trivial⟩
    | completed clear | fatal clear | interrupted clear | unlogged clear => exact absurd probe clear
  · cases (came : Came m o s (ending m o s)) with
    | unlogged _ _ left code => exact ⟨code, left.2.mp⟩
    | completed _ logged | fatal _ logged | interrupted _ logged | aborted _ logged => exact absurd unlogged logged
  · rintro ⟨e, s', failed, -, unrecordable⟩
    exact recordable_of_encodable usable (encodable e s' failed) unrecordable

/-! ## An empty working directory -/

/-- A machine whose user wants no applications in the base PLT. -/
def plainMachine : Machine where
  host := {
    cwd := "/w"
    home := "/h"
    users := []
    environment := [("PLTSYNC_DIALYZER_BASE_PLT_APPS", "")]
  }
  programs := Programs.under "/usr/bin/" []

/-- A working directory with nothing in it, before the processes to come. -/
def awaiting (pending : List ProcessOutcome) : State where
  tree := { entries := [(["w"], .dir), (["h"], .dir)] }
  shell := { pending := pending }

/-- The answer of `erl`. -/
def answer : ProcessOutcome := { ended := .finished 0 "26\n/otp\n" "" }

/-- The user stops `erl` before it answers. -/
def stopped : ProcessOutcome := { ended := .interrupted }

theorem invokes_dialyzer : Invokes ["dialyzer"] {} := ⟨[], [], by rfl, by rfl, rfl, by rfl⟩

theorem run_of_stopped : (run plainMachine ["dialyzer"] (awaiting [stopped])).code = 1 ∧
    (run plainMachine ["dialyzer"] (awaiting [stopped])).state.shell.launches.length = 1 := by decide +kernel

theorem interrupted_of_stopped :
    (awaiting [stopped]).shell.Interrupted (run plainMachine ["dialyzer"] (awaiting [stopped])).state.shell := by
  refine ⟨stopped, ?_, rfl⟩
  rw [run_of_stopped.2]
  exact List.mem_singleton.mpr rfl

/-- Where `erl` answers, nothing else is asked and the run completes without warnings; where the user stops `erl`,
it was the question with which a run is set up. -/
theorem exit_codes_of_answer :
    Invokes ["dialyzer"] {} ∧ Completes plainMachine {} (awaiting [answer]) 0 ∧
      CodeFits plainMachine {} (awaiting [answer]) (run plainMachine ["dialyzer"] (awaiting [answer])) ∧
      ProbeInterrupted plainMachine {} (awaiting [stopped]) := by
  obtain ⟨fits, probed, unlogged, -⟩ := exit_codes (m := plainMachine) (s := awaiting [answer]) invokes_dialyzer
  have code : (run plainMachine ["dialyzer"] (awaiting [answer])).code = 0 := by decide +kernel
  have clear : ¬ ProbeInterrupted plainMachine {} (awaiting [answer]) := fun probe =>
    absurd (code ▸ (probed probe).1) (by decide)
  have logged : ¬ Unlogged plainMachine {} (awaiting [answer]) := fun bare => absurd (code ▸ (unlogged bare).1) (by decide)
  have fitting := fits.mpr ⟨clear, fun bare => absurd bare logged⟩
  refine ⟨invokes_dialyzer, fitting.success code, fitting, by_contra fun clear' => ?_⟩
  have cut := interrupted_of_stopped
  obtain ⟨fits', -, unlogged', -⟩ := exit_codes (m := plainMachine) (s := awaiting [stopped]) invokes_dialyzer
  have said := (fits'.mpr ⟨clear', fun bare => absurd cut (unlogged' bare).2⟩).interrupted.mpr cut
  rw [run_of_stopped.1] at said
  exact absurd said (by decide)

/-- Where the user stops `erl`, the exit code does not say so. -/
theorem exit_codes_of_stopped :
    ¬ ∀ {m : Machine} {o : AnalyzeOptions} {s : State} {arguments : List String}, Invokes arguments o →
      CodeFits m o s (run m arguments s) := by
  intro fits
  have fitting : CodeFits plainMachine {} (awaiting [stopped]) (run plainMachine ["dialyzer"] (awaiting [stopped])) :=
    fits invokes_dialyzer
  have said := fitting.interrupted.mpr interrupted_of_stopped
  rw [run_of_stopped.1] at said
  exact absurd said (by decide)

end PltKeeper.Command
