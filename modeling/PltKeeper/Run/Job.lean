import PltKeeper.Application.Resolver
import PltKeeper.Otp.Runtime
import PltKeeper.Plt.Maintenance
import PltKeeper.Run.Outcome
import PltKeeper.Run.Settings

/-!
A run: bring the project PLT up to date, then run success typing over the project's own files. A
project PLT that is not there is started from the base PLT, which is brought up to date first, so
that the analysis of the common applications is shared. Errors that the tool reports and errors of
the operating system stop a run and become its outcome; all others escape. The search path is the
project's for the time of the run and what it was before afterwards, however the run ends.
-/

namespace PltKeeper

/-- All that a run works with. -/
structure Job (σ : Type) where
  /-- What the maintenance of PLTs works with. -/
  keeper : Keeper σ
  /-- The options of the run. -/
  settings : Settings
  /-- The project. -/
  project : Project
  /-- The project PLT. -/
  plt : Path
  /-- The base PLT. -/
  basePlt : Path
  /-- The directory that holds the runtime's applications. -/
  libRoot : Option Path

namespace Job

variable {σ : Type}

/-- The run that settings, a project and a runtime ask for. The categories of warnings must be a
list, and the directories paths. -/
def of (host : Host) (backend : Backend σ) (settings : Settings) (project : Project)
    (runtime : OtpRuntime) : Except Failure (Job σ) := do
  let plt ← Plt.projectPath host settings.stem.display settings.location settings.baseDir
    runtime.release
  let basePlt ← Plt.basePath host settings.baseStem.display settings.baseLocation
    settings.cacheDir runtime.release
  let output := Plt.warningsPath (← settings.baseDir.get) runtime.release
  let warnings ← settings.warnings.elements
  return {
    keeper := {
      backend := backend
      cwd := host.cwd
      wishes := ⟨warnings, settings.getWarnings, settings.homePlt⟩
      output := output
      stops? := host.stops? }
    settings := settings
    project := project
    plt := plt
    basePlt := basePlt
    libRoot := some runtime.libDir }

variable (j : Job σ)

/-- What resolving works with. -/
def resolver : Resolver := ⟨j.keeper.cwd, j.libRoot⟩

/-- The applications of the project PLT: those of the base PLT, further ones, and those that the
project's applications depend on. -/
def requiredApps : Except Failure (List Json) := do
  let base ← j.settings.baseApps.elements
  let extra ← j.settings.extraApps.elements
  return base ++ extra ++ j.project.dependencyApps.map Json.str

/-- The files that the project PLT must hold. -/
def requiredFiles : Act σ FileSet := do
  j.resolver.resolve (.arr (← Act.lift j.requiredApps)) j.project.apps

/-- The files that the base PLT must hold. -/
def baseFiles : Act σ FileSet := j.resolver.resolve j.settings.baseApps j.project.apps

/-- The files of the project's own applications. -/
def ownFiles : Act σ FileSet := j.resolver.ownFiles j.project.apps

/-- Brings the base PLT to the files it must hold. -/
def updateBase (files : FileSet) : Act σ Nat := do
  match ← j.keeper.read j.basePlt with
  | none => j.keeper.build j.basePlt files.toList
  | some held => j.keeper.sync j.basePlt held files

/-- Copies the base PLT to where the project PLT belongs. -/
def copyBase : Act σ Unit := do
  Act.info s!"Copying {j.basePlt} to {j.plt}..."
  Act.restate (σ := σ) (do
    Act.changePartly fun t => t.makeDirs j.keeper.cwd j.plt.parent
    Act.change fun t => t.copy j.keeper.cwd j.basePlt j.plt)
    fun e => .copyFailed j.basePlt j.plt (.system e)

/-- Makes the project PLT. Without a base PLT to start from it is built; a fresh copy holds exactly
what the base PLT must hold. -/
def makeProjectPlt (files : FileSet) : Act σ Nat := do
  Act.info "Updating base plt..."
  let base ← j.baseFiles
  let warnings ← j.updateBase base
  if ← Act.ofTree fun t => t.isFile j.keeper.cwd j.basePlt then
    j.copyBase
    return warnings + (← j.keeper.sync j.plt base files)
  else return warnings + (← j.keeper.build j.plt files.toList)

/-- Brings the project PLT up to date, if the settings ask for it. -/
def updateProject : Act σ Nat := do
  if !j.settings.updatePlt.isSet then return 0
  Act.info "Updating plt..."
  let files ← j.requiredFiles
  match ← j.keeper.read j.plt with
  | none => j.makeProjectPlt files
  | some held => j.keeper.sync j.plt held files

/-- Runs success typing over the project's own files, if the settings ask for it. -/
def successTyping : Act σ Nat := do
  if !j.settings.succTypings.isSet then return 0
  Act.info "Doing success typing analysis..."
  let files ← j.ownFiles
  Act.info s!"Analyzing {files.size} files with {j.plt}..."
  j.keeper.runPhase .successTyping j.plt files.toList

/-- The steps of a run; says how many warnings there were. -/
def steps : Act σ Nat := do
  let _ ← j.keeper.beginReport
  let maintenance ← j.updateProject
  let analysis ← j.successTyping
  return maintenance + analysis

/-- The error that stops a run, if a failure does not escape it. One of the operating system
concerns the file that it names, or else the directory of the warnings file. -/
def stopping? : Failure → Option ToolError
  | .tool e => some e
  | .system e =>
    let path := match e.file? with
      | some file => if file = "" then j.keeper.output.parent else Path.parse file
      | none => j.keeper.output.parent
    some (.inaccessible path (.system e))
  | _ => none

/-- The outcome of a run that an error stopped. -/
def failed (e : ToolError) (s : Session σ) : Outcome where
  status := .failed
  warnings := s.total
  output := some j.keeper.output
  error := some (.tool e)
  phases := s.phases

/-- The outcome of a run that completed with so many warnings. -/
def completed (warnings : Nat) (s : Session σ) : Outcome :=
  if warnings = 0 then
    { status := .success, output := some j.keeper.output, phases := s.phases }
  else
    { status := .warnings
      warnings := warnings
      output := some j.keeper.output
      error := some (.tool (.warningsFound warnings (some j.keeper.output)))
      phases := s.phases }

/-- Runs the job. -/
def run : Act σ Outcome := do
  Act.info "Dialyzer starting, this may take a while..."
  let ended : Except ToolError Nat ← Act.withSearchPath j.project.codePaths fun s =>
    match j.steps s with
    | .ok n s => .ok (.ok n) s
    | .error e s =>
      match j.stopping? e with
      | some e => .ok (.error e) s
      | none => .error e s
  match ended with
  | .error e => return j.failed e (← get)
  | .ok warnings =>
    if warnings ≠ 0 then Act.info s!"Warnings written to {j.keeper.output}"
    return j.completed warnings (← get)

end Job

end PltKeeper
