import PltKeeper.Command.Analyze
import PltKeeper.Command.Arguments
import PltKeeper.Command.Crash
import PltKeeper.Command.Info

/-!
The command line: `dialyzer` brings PLTs up to date and analyses a project, `plt-info` shows a PLT.
-/

namespace PltKeeper.Command

/-- What a command line leaves behind. -/
structure Ended where
  /-- The exit code. -/
  code : Int
  /-- What was printed on standard error, where halves of surrogate pairs are escaped. -/
  err : String
  /-- The state, with what was printed on standard output. -/
  state : State

/-- The option that shows how a command is used. -/
def helpOption : OptionSpec := ⟨["--help"], false⟩

/-- The option that shows how the program is used. -/
def programHelpOption : OptionSpec := ⟨["-h", "--help"], false⟩

/-- The option that shows the version. -/
def versionOption : OptionSpec := ⟨["--version"], false⟩

/-- The project's directory. -/
def rootOption : OptionSpec := ⟨["--root"], true⟩

/-- Whether to bring the PLT up to date. -/
def updateOption : OptionSpec := ⟨["-u", "--update-plt"], true⟩

/-- Whether to run success typing. -/
def typingOption : OptionSpec := ⟨["-s", "--succ-typings"], true⟩

/-- Where to write a summary. -/
def summaryOption : OptionSpec := ⟨["--summary"], true⟩

/-- Where to keep a log. -/
def logDirOption : OptionSpec := ⟨["--log-dir"], true⟩

/-- Whether the base PLT is meant. -/
def baseOption : OptionSpec := ⟨["--base"], false⟩

/-- Whether to list the files. -/
def filesOption : OptionSpec := ⟨["--files"], false⟩

/-- The options of the analysis. -/
def analyzeSpecs : List OptionSpec :=
  [rootOption, updateOption, typingOption, summaryOption, logDirOption, helpOption]

/-- The options of the other command. -/
def infoSpecs : List OptionSpec := [rootOption, baseOption, filesOption, helpOption]

/-- How a command is used. -/
def usageOf (command : String) : String := "Usage: pltsync " ++ command ++ " [OPTIONS]\n"

/-- How the program is used. -/
def programUsage : String := "Usage: pltsync [OPTIONS] COMMAND [ARGS]...\n"

/-- Ends with a fault in the arguments. -/
def refuse (usage : String) (fault : UsageFault) (s : State) : Ended :=
  let help := if fault.showsUsage then usage ++ "\n" else ""
  ⟨2, Text.spelled (help ++ "Error: " ++ fault.message ++ "\n"), s⟩

/-- Ends with a text. -/
def showText (text : String) (s : State) : Ended := ⟨0, "", { s with out := s.out ++ text }⟩

/-- Runs a command to its end. A failure that could not be dealt with ends the program with a trace,
which is left out. -/
def conduct (m : Machine) (root name : String) (step : Step ExitCode) (s : State) : Ended :=
  match step s with
  | .ok code s => ⟨code.number, "", s⟩
  | .error .interrupted s => ⟨1, "\nAborted!\n", s⟩
  | .error e s =>
    match crash m root name e s with
    | .ok shown s => ⟨ExitCode.fatalError.number, Text.spelled shown, s⟩
    | .error _ s => ⟨1, "", s⟩

/-- The truth value of an option, if it is given. -/
def choice? (given : List Given) (spec : OptionSpec) : Except UsageFault (Option Bool) :=
  (valueOf? given spec).mapM (readBoolean spec)

/-- Reads truth values in the order in which their options were first given. -/
def readChoices (given : List Given) : Except UsageFault (Option Bool × Option Bool) := do
  let first := given.find? fun g => g.spec = updateOption || g.spec = typingOption
  if (first.map (·.spec)) = some typingOption then
    let typing ← choice? given typingOption
    return (← choice? given updateOption, typing)
  else
    let update ← choice? given updateOption
    return (update, ← choice? given typingOption)

/-- What the analysis is asked to do. -/
def analyzeOptions (given : List Given) : Except UsageFault AnalyzeOptions := do
  let (update, typing) ← readChoices given
  return {
    root := (valueOf? given rootOption).getD "."
    updatePlt := update
    succTypings := typing
    summary := valueOf? given summaryOption
    logDir := valueOf? given logDirOption }

/-- What the other command is asked to show. -/
def infoOptions (given : List Given) : InfoOptions where
  root := (valueOf? given rootOption).getD "."
  base := has given baseOption
  files := has given filesOption

/-- Reads the arguments of a command and goes on with the options they give. -/
def withArguments {α : Type} (name : String) (specs : List OptionSpec) (arguments : List String)
    (read : List Given → Except UsageFault α) (go : α → State → Ended) (s : State) : Ended :=
  let usage := usageOf name ++ "Try 'pltsync " ++ name ++ " --help' for help.\n"
  match readArguments specs true none arguments with
  | .error fault => refuse usage fault s
  | .ok (given, others) =>
    if has given helpOption then showText (usageOf name) s
    else
      match read given with
      | .error fault => refuse usage fault s
      | .ok options =>
        if others.isEmpty then go options s else refuse usage (.extraArguments others) s

/-- The options of the program itself. -/
def programSpecs : List OptionSpec := [versionOption, programHelpOption]

/-- The names of the commands. -/
def commandNames : List String := ["dialyzer", "plt-info"]

/-- Reads the options of the program itself. One of them, or a fault, ends the command line; what
follows them is for the rest. -/
def withProgramOptions (arguments : List String) (go : List String → State → Ended) (s : State) :
    Ended :=
  match readArguments programSpecs false none arguments with
  | .error fault => refuse programUsage fault s
  | .ok ([], rest) => go rest s
  | .ok (g :: _, _) =>
    showText (if g.spec = versionOption then "pltsync, version 0.3.0\n" else programUsage) s

/-- Ends with the name of a command that there is not. One that looks like an option, as it may
after two hyphens, is read as an option of the program first. -/
def refuseCommand (name : String) (arguments : List String) (s : State) : Ended :=
  withProgramOptions (name :: arguments)
    (fun _ => refuse programUsage (.noSuchCommand name (Text.closest name commandNames))) s

/-- Runs a command line. An empty one is answered with how the program is used; one that has
arguments and no command among them is at fault. The sinks that the environment asks for take what is
logged meanwhile; they are set up before, and what they do with it is not part of this. -/
def run (m : Machine) (arguments : List String) (s : State) : Ended :=
  withProgramOptions arguments (fun rest s =>
    match rest with
    | [] =>
      if arguments.isEmpty then ⟨2, programUsage, s⟩
      else refuse programUsage .commandMissing s
    | "dialyzer" :: arguments =>
      withArguments "dialyzer" analyzeSpecs arguments analyzeOptions
        (fun o => conduct m o.root "dialyzer" (analyze m o)) s
    | "plt-info" :: arguments =>
      withArguments "plt-info" infoSpecs arguments (fun given => .ok (infoOptions given))
        (fun o => conduct m o.root "plt_info" (info m o)) s
    | name :: arguments => refuseCommand name arguments s) s

end PltKeeper.Command
