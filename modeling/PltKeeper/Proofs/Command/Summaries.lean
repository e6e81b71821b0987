import PltKeeper.Proofs.Command.ExitCodes
import PltKeeper.Proofs.Run.Bookkeeping

/-! What the summary of an analysis says. It is written before the outcome is printed and before there is an exit
code, from a total that is kept apart from the results of the phases. The exit code is the one it promises if the
outcome can be printed. If not, that is a crash: its code is that of a failed run, or of one that found warnings if
the crash cannot be recorded. A crash leaves the summary alone, unless it is written to the error log. -/
namespace PltKeeper.Command

open Console

variable {m : Machine} {o : AnalyzeOptions} {s s₂ s₃ s' : State} {t : Session Shell} {outcome : Outcome}
  {arguments : List String} {file : String}

/-! ## What a document says -/

/-- A document agrees with the session that a run left, and with the exit code of the command. -/
structure Agrees (document : Json) (t : Session Shell) (code : Int) : Prop where
  /-- It gives the exit code, one of three. -/
  exitCode : document.get? "exit_code" = some (.int code)
  known : code = 0 ∨ code = 1 ∨ code = 2
  /-- The status says which. -/
  success : document.get? "status" = some (.str "success") ↔ code = 0
  warned : document.get? "status" = some (.str "warnings") ↔ code = 1
  failed : document.get? "status" = some (.str "failed") ↔ code = 2
  /-- The warnings are those of all phases, -/
  warnings : document.get? "warnings" = some (.int (t.phases.map (·.warnings)).sum)
  /-- and an error is given just where the run was no success. -/
  error : document.get? "error" = some .null ↔ document.get? "status" = some (.str "success")
  /-- The phases are on record: one for each analysis that was asked for, in this order, -/
  phases : document.get? "phases" = some (.arr (t.phases.map Outcome.phaseDocument))
  told : List.Forall₂ Phase.Tells t.phases (t.requests.filterMap Request.analyze?)
  /-- and all but the last one came through. -/
  clean : CleanBefore t.phases

/-- The outcome is that of a run which left this session. -/
structure Left (outcome : Outcome) (t : Session Shell) : Prop where
  phases : outcome.phases = t.phases
  warnings : outcome.warnings = (t.phases.map (·.warnings)).sum
  error : outcome.error = none ↔ outcome.status = .success
  told : List.Forall₂ Phase.Tells t.phases (t.requests.filterMap Request.analyze?)
  clean : CleanBefore t.phases

theorem Left.agrees (left : Left outcome t) : Agrees (summaryOf outcome) t (exitCodeOf outcome.status).number where
  exitCode := rfl
  known := by cases outcome.status <;> decide
  success := by
    show some (Json.str outcome.status.name) = _ ↔ _
    cases outcome.status <;> simp [RunStatus.name, exitCodeOf, ExitCode.number]
  warned := by
    show some (Json.str outcome.status.name) = _ ↔ _
    cases outcome.status <;> simp [RunStatus.name, exitCodeOf, ExitCode.number]
  failed := by
    show some (Json.str outcome.status.name) = _ ↔ _
    cases outcome.status <;> simp [RunStatus.name, exitCodeOf, ExitCode.number]
  warnings := by
    show some (Json.int outcome.warnings) = _
    rw [left.warnings]
  error := by
    show some ((outcome.error.map fun e => Json.str e.message).getD .null) = _ ↔ some (Json.str outcome.status.name) = _
    have error := left.error
    cases given : outcome.error <;> cases status : outcome.status <;> simp_all [RunStatus.name]
  phases := by
    show some (Json.arr (outcome.phases.map Outcome.phaseDocument)) = _
    rw [left.phases]
  told := left.told
  clean := left.clean

/-- The run that is asked for is set up in the first state and returns this outcome from it, leaving the session. -/
def Returns (m : Machine) (o : AnalyzeOptions) (s s₂ : State) (outcome : Outcome) (t : Session Shell) : Prop :=
  ∃ s₁ job, prepare m o s = .ok () s₁ ∧ setUp m o.root (choicesOf o) s₁ = .ok job s₂ ∧
    job.run s₂.session = .ok outcome t

end PltKeeper.Command
