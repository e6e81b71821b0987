import PltKeeper.Path.Basic
import PltKeeper.System.SystemError

/-!
The errors that the tool reports to its user. All but one abort a run; `warningsFound` is the
outcome of a run that completed and found warnings.
-/

namespace PltKeeper

/-- What made an operation on a file fail. -/
inductive Cause
  /-- The operating system refused it. -/
  | system (e : SystemError)
  /-- Any other reason, by its text. -/
  | other (text : String)
  deriving DecidableEq, Repr

/-- The reason alone. -/
def Cause.describe : Cause → String
  | system e => e.describe
  | other text => text

/-- An error that the tool reports. -/
inductive ToolError
  /-- No directory of compiled objects was found for an application. -/
  | unknownApplication (app : String)
  /-- Processing failed for a reason given in words. -/
  | dialyzing (detail : String)
  /-- A PLT exists and cannot be read. -/
  | unreadablePlt (plt : Path)
  /-- The base PLT could not be copied. -/
  | copyFailed (source destination : Path) (cause : Cause)
  /-- The analysis failed for a reason other than an unreadable PLT. -/
  | backend (detail : String)
  /-- A file or directory that a run depends on could not be made or listed. -/
  | inaccessible (path : Path) (cause : Cause)
  /-- The warnings file could not be written. -/
  | outputFailed (path : Path) (cause : Cause)
  /-- The run completed and found warnings. -/
  | warningsFound (count : Int) (output : Option Path)
  deriving DecidableEq, Repr

namespace ToolError

/-- The name of the error in reports. -/
def kind : ToolError → String
  | unknownApplication _ => "UnknownApplication"
  | dialyzing _ => "DialyzerError"
  | unreadablePlt _ => "PltReadError"
  | copyFailed .. => "PltCopyError"
  | backend _ => "BackendError"
  | inaccessible .. => "FileAccessError"
  | outputFailed .. => "OutputFileError"
  | warningsFound .. => "DialyzerWarnings"

/-- What went wrong while applications were processed, for the errors that report such a detail. -/
def detail? : ToolError → Option String
  | dialyzing detail | backend detail => some detail
  | unreadablePlt plt => some ("Could not read the PLT file " ++ plt.text)
  | copyFailed source destination cause =>
    some ("Could not copy PLT from " ++ source.text ++ " to " ++ destination.text ++ ": " ++
      cause.describe)
  | inaccessible path cause => some ("Could not access " ++ path.text ++ ": " ++ cause.describe)
  | unknownApplication _ | outputFailed .. | warningsFound .. => none

/-- Whether the error arose while applications were processed. -/
def isProcessing (e : ToolError) : Bool := e.detail?.isSome

/-- The error in words. -/
def message (e : ToolError) : String :=
  match e with
  | unknownApplication app => "Could not find application: " ++ app
  | outputFailed path cause => "Failed to write to " ++ path.text ++ ": " ++ cause.describe
  | warningsFound count _ => s!"Warnings occurred running dialyzer: {count}"
  | _ => "Error in dialyzing apps: " ++ e.detail?.getD ""

end ToolError

end PltKeeper
