import PltKeeper.Console.Layout
import PltKeeper.Console.Markup

/-!
The messages of the commands, as they appear on the console. Messages may hold markup and codes,
reported warnings codes only; panels are taken literally.
-/

namespace PltKeeper.Console

variable (screen : Screen)

/-- The text that a marked-up message prints. -/
def message (s : String) : Except Failure String := do
  let r ← render screen s.toList
  let ls := wrap screen.width r.shown
  r.checkStyles (1 < ls.length)
  return printed ls

/-- An error message. -/
def error (s : String) : Except Failure String := message screen ("[error]ERROR:[/error] " ++ s)

/-- A warning message. -/
def warning (s : String) : Except Failure String :=
  message screen ("[warning]WARNING:[/warning] " ++ s)

/-- A message of success. -/
def success (s : String) : Except Failure String := message screen ("[success]OK:[/success] " ++ s)

/-- A text without markup. -/
def literal (s : String) : String :=
  printed (wrap screen.width (sanitized (screen.shown s.toList)))

/-- A text without markup that is not broken into lines. -/
def reported (s : String) : String := printed [sanitized (screen.shown s.toList)]

/-- A panel that shows a status, a message and a detail. -/
def statusPanel (status text detail : String) : String :=
  printed (panel screen.width
    (sanitized ("STATUS: [" ++ status ++ "]\n" ++ text ++ "\n" ++ detail).toList))

end PltKeeper.Console
