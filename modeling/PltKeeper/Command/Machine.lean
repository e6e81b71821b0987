import PltKeeper.Backend.Dialyzer
import PltKeeper.Command.ExitCode
import PltKeeper.Console.Message
import PltKeeper.Otp.Runtime
import PltKeeper.Run.Job

/-!
What a command works with and on, and the run that it sets up. A command prints and logs, changes
the file tree and launches processes; whatever stops it leaves what it did before in place. Printing
fails where a text holds a half of a surrogate pair that the encoding of the output has no form for.
-/

namespace PltKeeper.Command

/-- What a command knows of the machine. -/
structure Machine where
  /-- Directories and environment. -/
  host : Host
  /-- The programs that can be launched. -/
  programs : Programs := {}
  /-- The console. -/
  screen : Console.Screen := {}
  /-- The present time, as records show it. -/
  now : String := ""
  /-- The trace that a failure leaves, as the error log shows it. -/
  traceOf : Failure → String := fun _ => ""
  deriving Inhabited

/-- What a command works on. -/
structure State where
  /-- The file tree. -/
  tree : FileTree
  /-- The processes. -/
  shell : Shell := {}
  /-- What has been logged, first message first. -/
  log : List LogRecord := []
  /-- What has been printed. The lines that a log shows to machines stand in between, and are not part of this. -/
  out : String := ""
  deriving Inhabited

/-- A part of a command. -/
abbrev Step (α : Type) := EStateM Failure State α

/-- What is advised where a text cannot be printed. -/
def encodingAdvice : String :=
  "\n*** You may need to add PYTHONIOENCODING=utf-8 to your environment ***"

/-- Why a text cannot be printed. -/
def unprintable? (screen : Console.Screen) (text : String) : Option Text.EncodeFault :=
  Text.fault? (fun c => Text.isHalf c && !screen.takes c) text

/-- Prints a text, unless it cannot be printed. Printing fails in no other way. -/
def print (screen : Console.Screen) (text : String) : Step Unit := fun s =>
  match unprintable? screen text with
  | some fault => .error (.notEncodable fault encodingAdvice) s
  | none => .ok () { s with out := s.out ++ text }

/-- Prints a message, unless its markup is at fault or it cannot be printed. -/
def printMessage (screen : Console.Screen) (text : Except Failure String) : Step Unit := fun s =>
  match text with
  | .ok text => print screen text s
  | .error e => .error e s

/-- A result, or a failure, that needs no state. -/
def lift {α : Type} (r : Except Failure α) : Step α := fun s =>
  match r with
  | .ok a => .ok a s
  | .error e => .error e s

/-- The session that a command's state stands for. -/
def State.session (s : State) : Session Shell := { tree := s.tree, backend := s.shell }

/-- The state after a session: warnings have been printed as they were reported. They were read from
what processes printed, which has no halves of surrogate pairs, so that they can be printed. -/
def State.after (s : State) (screen : Console.Screen) (t : Session Shell) : State :=
  { s with
    tree := t.tree
    shell := t.backend
    log := s.log ++ t.log
    out := s.out ++ String.join (t.console.map (Console.reported screen)) }

/-- Does something in a session. -/
def inSession {α : Type} (screen : Console.Screen) (act : Act Shell α) : Step α := fun s =>
  match act s.session with
  | .ok a t => .ok a (s.after screen t)
  | .error e t => .error e (s.after screen t)

/-- The value of a key of the runtime section. -/
def runtimeValue (c : Config) (key : String) : Json :=
  ((c.lookup "runtime").bind fun keys => keys.lookup key).getD .null

/-- Loads the configuration of a project. -/
def loadConfig (m : Machine) (root : Path) : Step Config := fun s =>
  match Config.load m.host s.tree root with
  | .ok (c, log) => .ok c { s with log := s.log ++ log }
  | .error e => .error e s

/-- Finds out about the runtime. Without a time limit in the configuration, the question is given
half a minute. -/
def findRuntime (m : Machine) (c : Config) (limit : Option Json) : Step OtpRuntime := fun s =>
  let reply := OtpRuntime.resolve m.host m.programs (runtimeValue c "otp_release").display
    (runtimeValue c "otp_root").display (runtimeValue c "erl").display
    (some (limit.getD (.int 30))) s.tree s.shell
  let s := { s with tree := reply.tree, shell := reply.state }
  match reply.result with
  | .ok runtime => .ok runtime s
  | .error e => .error e s

/-- The run that the configuration of a project asks for, some options set otherwise. -/
def setUp (m : Machine) (root : String) (options : List (String × Json)) : Step (Job Shell) := do
  let root := Path.parse root
  let c ← loadConfig m root
  let limit := Dialyzer.limitOf (runtimeValue c "timeout")
  let runtime ← findRuntime m c limit
  let dialyzer : Dialyzer :=
    { host := m.host
      programs := m.programs
      executable := (runtimeValue c "dialyzer").display
      limit := limit }
  let settings ← lift (Settings.ofDocument m.host root c.document)
  let settings ← lift (settings.override options)
  let project ← lift (Project.ofDocument m.host root c.document)
  lift (Job.of m.host dialyzer.backend settings project runtime)

/-- Does something; an error that the tool reports is printed and ends the command. -/
def orReport {α : Type} (m : Machine) (step : Step α) (next : α → Step ExitCode) :
    Step ExitCode := fun s =>
  match step s with
  | .ok a s => next a s
  | .error (.tool e) s =>
    (do
      printMessage m.screen (Console.error m.screen e.message)
      return ExitCode.fatalError : Step ExitCode) s
  | .error e s => .error e s

end PltKeeper.Command
