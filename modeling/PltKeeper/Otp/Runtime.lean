import PltKeeper.Backend.Basic
import PltKeeper.Path.Home
import PltKeeper.System.Process
import PltKeeper.Text.Blank

/-!
The Erlang runtime that files are analysed against. Its release names PLT files, its root directory
holds the applications. Both may be configured; what is not is asked of `erl`, once.
-/

namespace PltKeeper

/-- The runtime whose applications are analysed. -/
structure OtpRuntime where
  /-- The release. -/
  release : String
  /-- The directory it is installed in. -/
  root : Path
  deriving DecidableEq, Repr, Inhabited

namespace OtpRuntime

/-- The directory that holds the runtime's applications. -/
def libDir (r : OtpRuntime) : Path := r.root.child "lib"

/-- The expression that prints the release and the root directory, each on a line. -/
def question : String :=
  "io:format(\"~s~n~s~n\", [erlang:system_info(otp_release), code:root_dir()]), halt()."

/-- The failure to find out about the runtime. -/
def fault {α : Type} (detail : String) : Except Failure α := .error (.tool (.backend detail))

/-- The runtime that the answer describes: the first two lines that are not blank. -/
def ofAnswer (erl : String) (status : Int) (out err : String) : Except Failure OtpRuntime :=
  let answer := ((Text.lines out.toList).map Text.strip).filter (!·.isEmpty)
  match if status = 0 then answer else [] with
  | release :: root :: _ => .ok ⟨String.ofList release, Path.parse (String.ofList root)⟩
  | _ =>
    let complaint := Text.strip err.toList
    let detail := if complaint.isEmpty then Text.strip out.toList else complaint
    fault ("Could not determine OTP release from '" ++ erl ++ "': " ++ String.ofList detail)

/-- What comes of asking `erl`, by how it ended. -/
def answerOf (erl : String) (limit : Option Json) : ProcessEnd → Except Failure OtpRuntime
  | .finished status out err => ofAnswer erl status out err
  | .timedOut => fault ("Erlang runtime probe timed out after " ++
      (limit.map Json.display).getD "None" ++ "s")
  | .refused e => .error (.system e)
  | .interrupted => .error .interrupted

/-- How the program is launched that is asked. -/
def questionTo (limit : Option Json) (program : String) : Launch where
  argv := [program, "-noshell", "-eval", question]
  limit := limit
  dialyzerPlt := none

/-- Asks `erl` for its release and its root directory. -/
def probe (programs : Programs) (erl : String) (limit : Option Json) (t : FileTree) (sh : Shell) :
    Reply Shell OtpRuntime :=
  match programs.find? erl with
  | none => ⟨fault ("Erlang runtime '" ++ erl ++ "' not found on PATH"), t, sh⟩
  | some program =>
    let (ended, t, sh) := sh.launch programs (questionTo limit program) t
    ⟨ended >>= answerOf erl limit, t, sh⟩

/-- The runtime: as configured, what is not configured as `erl` answers. -/
def resolve (host : Host) (programs : Programs) (release root erl : String) (limit : Option Json)
    (t : FileTree) (sh : Shell) : Reply Shell OtpRuntime :=
  let configured : Except Failure Path := host.expandHome (Path.parse root)
  if release ≠ "" && root ≠ "" then
    ⟨configured.map fun root => ⟨release, root⟩, t, sh⟩
  else
    let probed := probe programs erl limit t sh
    { probed with result := do
        let found ← probed.result
        let root ← if root = "" then pure found.root else configured
        return ⟨if release = "" then found.release else release, root⟩ }

end OtpRuntime

end PltKeeper
