import PltKeeper.Backend.Basic
import PltKeeper.Log.Record

/-!
The state of a session and the actions on it. An action that fails keeps what it did before: files
written stay written, and the log, the console and the record of requests go on from where they
were.
-/

namespace PltKeeper

/-- What a backend was asked. -/
inductive Request
  | query (plt : Path)
  | analyze (options : Options)
  deriving Inhabited

/-- The PLT that a question was about, if it was a question. -/
def Request.query? : Request → Option Path
  | query plt => some plt
  | analyze _ => none

/-- The analysis that was run, if one was. -/
def Request.analyze? : Request → Option Options
  | query _ => none
  | analyze options => some options

/-- How a phase ended. -/
inductive PhaseStatus
  | success
  | failed
  deriving DecidableEq, Repr, Inhabited

/-- The name of a status. -/
def PhaseStatus.name : PhaseStatus → String
  | success => "success"
  | failed => "failed"

/-- The status of a name. -/
def PhaseStatus.ofName? (s : String) : Option PhaseStatus := [success, failed].find? (·.name = s)

/-- One analysis that was run: which, on which PLT, over how many files, with what outcome. -/
structure Phase where
  /-- The name of the analysis. -/
  name : String
  /-- The PLT it worked on. -/
  plt : String
  /-- How many files it was given. -/
  files : Int
  /-- How it ended. -/
  status : PhaseStatus := .success
  /-- How many warnings it reported. -/
  warnings : Int := 0
  deriving DecidableEq, Repr, Inhabited

/-- The state of a session, with the state of its backend. -/
structure Session (σ : Type) where
  /-- The file tree. -/
  tree : FileTree
  /-- The backend's own state. -/
  backend : σ
  /-- The directories in which applications are sought first. -/
  searchPath : List Path := []
  /-- What has been logged, first message first. -/
  log : List LogRecord := []
  /-- The lines on the console, first line first. -/
  console : List String := []
  /-- What the backend was asked, first question first. -/
  requests : List Request := []
  /-- The analyses that were run, first one first. -/
  phases : List Phase := []
  /-- How many warnings have been reported. -/
  total : Nat := 0

instance {σ : Type} [Inhabited σ] : Inhabited (Session σ) :=
  ⟨{ tree := .empty, backend := default }⟩

/-- Something done in a session, with a result or a failure. -/
abbrev Act (σ α : Type) := EStateM Failure (Session σ) α

namespace Act

variable {σ α : Type}

/-- Logs a message. -/
def log (level : Level) (message : String) : Act σ Unit :=
  modify fun s => { s with log := s.log ++ [⟨level, message⟩] }

/-- Logs a message of interest to every user. -/
def info (message : String) : Act σ Unit := log .info message

/-- A result, or a failure, that needs no session. -/
def lift (r : Except Failure α) : Act σ α := fun s =>
  match r with
  | .ok a => .ok a s
  | .error e => .error e s

/-- A result, or a failure, that the tree alone decides. -/
def ofTree (look : FileTree → Except Failure α) : Act σ α := fun s =>
  match look s.tree with
  | .ok a => .ok a s
  | .error e => .error e s

/-- A change of the tree that is refused as a whole. -/
def change (f : FileTree → Except Failure FileTree) : Act σ Unit := fun s =>
  match f s.tree with
  | .ok t => .ok () { s with tree := t }
  | .error e => .error e s

/-- A change of the tree of which a part may stay when it is refused. -/
def changePartly (f : FileTree → Except Failure Unit × FileTree) : Act σ Unit := fun s =>
  match f s.tree with
  | (.ok _, t) => .ok () { s with tree := t }
  | (.error e, t) => .error e { s with tree := t }

/-- Restates a failure of the operating system. Other failures stay as they are. -/
def restate (act : Act σ α) (f : SystemError → ToolError) : Act σ α := fun s =>
  match act s with
  | .ok a s => .ok a s
  | .error (.system e) s => .error (.tool (f e)) s
  | .error e s => .error e s

end Act

end PltKeeper
