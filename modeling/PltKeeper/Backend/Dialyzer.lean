import PltKeeper.Backend.Basic
import PltKeeper.Backend.Dialyzer.Command
import PltKeeper.Backend.Dialyzer.Output
import PltKeeper.Path.Home
import PltKeeper.System.Process

/-!
The backend that has dialyzer do the work, one process for every question and every analysis. Its
exit status says what came of an analysis: 0 and 2 mean that it was completed, without and with
warnings; all others that it failed.
-/

namespace PltKeeper

/-- How dialyzer is launched. -/
structure Dialyzer where
  /-- The machine. -/
  host : Host
  /-- The programs that can be launched. -/
  programs : Programs
  /-- The name of the program. -/
  executable : String := "dialyzer"
  /-- The seconds after which a process is stopped. -/
  limit : Option Json := none

namespace Dialyzer

/-- A time limit of zero is none. -/
def limitOf (timeout : Json) : Option Json := if timeout.isSet then some timeout else none

/-- A time limit as messages show it. -/
def limitText : Option Json → String
  | some limit => limit.display
  | none => "None"

/-- What a process printed and the status it ended with. -/
structure Finished where
  status : Int
  out : String
  err : String
  deriving DecidableEq, Repr

/-- The failure that dialyzer reports. -/
def fault {α : Type} (detail : String) : Except Failure α := .error (.tool (.backend detail))

/-- What came of a process, as far as any use of it goes. -/
def Finished.of (limit : Option Json) : ProcessEnd → Except Failure Finished
  | .finished status out err => .ok ⟨status, out, err⟩
  | .timedOut => fault s!"dialyzer timed out after {limitText limit}s"
  | .refused e => fault ("Could not start dialyzer: " ++ e.text)
  | .interrupted => .error .interrupted

variable (d : Dialyzer)

/-- How the program is launched: with these arguments, and with the user's PLT in its environment. -/
def launchOf (arguments : List String) (homePlt : Option String) (program : String) : Launch where
  argv := program :: arguments
  limit := d.limit
  dialyzerPlt := homePlt <|> d.host.valueOf? "DIALYZER_PLT"

/-- Launches dialyzer and makes something of how it ended. -/
def launch {α : Type} (arguments : List String) (homePlt : Option String) (t : FileTree)
    (sh : Shell) (use : Finished → Except Failure α) : Reply Shell α :=
  match d.programs.find? d.executable with
  | none => ⟨fault ("dialyzer executable '" ++ d.executable ++ "' not found on PATH"), t, sh⟩
  | some program =>
    let (ended, t, sh) := sh.launch d.programs (d.launchOf arguments homePlt program) t
    ⟨ended >>= Finished.of d.limit >>= use, t, sh⟩

/-- What a listing of a PLT says. -/
def listing (plt : Path) (f : Finished) : Except Failure (Option FileSet) :=
  if f.status = 0 then .ok (some (listedFiles d.host.cwd f.out))
  else .error (.tool (.unreadablePlt plt))

/-- Lists the files of a PLT. One that is no regular file is not there. -/
def query (plt : Path) (t : FileTree) (sh : Shell) : Reply Shell (Option FileSet) :=
  match t.isFile d.host.cwd plt with
  | .error e => ⟨.error e, t, sh⟩
  | .ok false => ⟨.ok none, t, sh⟩
  | .ok true => d.launch ["--plt_info", "--plt", plt.text] none t sh (d.listing plt)

/-- The texts by which dialyzer says that it could not read a PLT. -/
def readFailureMarkers : List String := ["Could not read", "Old PLT file", "not a valid PLT"]

/-- Whether `part` occurs in a text. -/
def occurs (part : List Char) : List Char → Bool
  | [] => part.isEmpty
  | c :: rest => part.isPrefixOf (c :: rest) || occurs part rest

/-- The lines in which a failed analysis says what is wrong: those it reported, else those it
printed. -/
def complaint (f : Finished) : List (List Char) :=
  let err := Text.strip f.err.toList
  Text.lines (if err.isEmpty then Text.strip f.out.toList else err)

/-- What an analysis that ended in this way found. -/
def verdict (o : Options) (f : Finished) : Except Failure (List Diagnostic) :=
  if f.status = 0 || f.status = 2 then warnings f.out
  else
    let detail := complaint f
    let whole := ['\n'].intercalate detail
    match o.initPlt with
    | some plt =>
      if readFailureMarkers.any fun m => occurs m.toList whole then
        .error (.tool (.unreadablePlt plt))
      else fault (lastLine detail f)
    | none => fault (lastLine detail f)
where
  /-- The last line of a complaint; without one, the status. -/
  lastLine (detail : List (List Char)) (f : Finished) : String :=
    match detail.getLast? with
    | some line => String.ofList line
    | none => s!"dialyzer exited with status {f.status}"

/-- Runs one analysis. -/
def analyze (o : Options) (t : FileTree) (sh : Shell) : Reply Shell (List Diagnostic) :=
  d.launch (arguments o) o.homePlt t sh (verdict o)

/-- The backend. -/
def backend : Backend Shell where
  query := d.query
  analyze := d.analyze

end Dialyzer

end PltKeeper
