import PltKeeper.System.Errno
import PltKeeper.Text.Quoted

/-!
Errors reported by the operating system, with the short reason that other messages embed and the
full text that is shown when one stands alone.
-/

namespace PltKeeper

/-- An error of the operating system. -/
inductive SystemError
  /-- A numbered error, with a text of its own and the file it concerns where these are known. -/
  | numbered (number : Int) (reason : Option String) (file : Option String)
  /-- An error that consists of a text only. -/
  | bare (text : String)
  deriving DecidableEq, Repr

namespace SystemError

/-- A numbered error with the system's text for it. -/
def ofNumber (number : Int) (file : Option String) : SystemError :=
  .numbered number (some (System.errnoText number)) file

/-- The reason alone, without number and file. A missing or empty reason is replaced by the system's
text for the number. -/
def describe : SystemError → String
  | numbered number reason _ =>
    match reason with
    | some reason => if reason = "" then System.errnoText number else reason
    | none => System.errnoText number
  | bare text => text

/-- The text of the error when it stands alone. -/
def text : SystemError → String
  | numbered number reason file =>
    let head := s!"[Errno {number}] " ++ reason.getD "None"
    match file with
    | some file => head ++ ": " ++ Text.quoted file
    | none => head
  | bare text => text

/-- The file that the error concerns. -/
def file? : SystemError → Option String
  | numbered _ _ file => file
  | bare _ => none

/-- The kind of error that a number stands for. -/
def kindOf : Int → String
  | 1 | 13 => "PermissionError"
  | 2 => "FileNotFoundError"
  | 3 => "ProcessLookupError"
  | 4 => "InterruptedError"
  | 10 => "ChildProcessError"
  | 11 | 114 | 115 => "BlockingIOError"
  | 17 => "FileExistsError"
  | 20 => "NotADirectoryError"
  | 21 => "IsADirectoryError"
  | 32 | 108 => "BrokenPipeError"
  | 103 => "ConnectionAbortedError"
  | 104 => "ConnectionResetError"
  | 110 => "TimeoutError"
  | 111 => "ConnectionRefusedError"
  | _ => "OSError"

/-- The kind of an error. -/
def kind : SystemError → String
  | numbered number _ _ => kindOf number
  | bare _ => "OSError"

end SystemError

end PltKeeper
