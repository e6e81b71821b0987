/-!
The exit codes of the commands.
-/

namespace PltKeeper

/-- How a command ends, as its caller sees it. -/
inductive ExitCode
  | success
  | warnings
  | fatalError
  | interrupted
  deriving DecidableEq, Repr, Inhabited

namespace ExitCode

/-- All exit codes. -/
def all : List ExitCode := [success, warnings, fatalError, interrupted]

/-- The number of an exit code. -/
def number : ExitCode → Int
  | success => 0
  | warnings => 1
  | fatalError => 2
  | interrupted => 130

/-- What an exit code means. -/
def description : ExitCode → String
  | success => "Success - No warnings"
  | warnings => "Analysis completed but dialyzer reported warnings"
  | fatalError => "Run aborted by a fatal error"
  | interrupted => "Run interrupted by user"

/-- What a number means as an exit code. -/
def describe (number : Int) : String :=
  match all.find? (·.number = number) with
  | some code => code.description
  | none => s!"Unknown exit code: {number}"

end ExitCode

end PltKeeper
