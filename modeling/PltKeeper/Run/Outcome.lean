import PltKeeper.Session

/-!
The outcome of a run: it is returned and not thrown, and can be written as a document.
-/

namespace PltKeeper

/-- How a run ended. -/
inductive RunStatus
  | success
  | warnings
  | failed
  deriving DecidableEq, Repr, Inhabited

namespace RunStatus

/-- The name of a status. -/
def name : RunStatus → String
  | success => "success"
  | warnings => "warnings"
  | failed => "failed"

/-- The status of a name. -/
def ofName? (s : String) : Option RunStatus := [success, warnings, failed].find? (·.name = s)

end RunStatus

/-- The outcome of a run. -/
structure Outcome where
  /-- How it ended. -/
  status : RunStatus
  /-- How many warnings were reported. -/
  warnings : Int := 0
  /-- The warnings file. -/
  output : Option Path := none
  /-- What stopped the run, or the warnings it found. -/
  error : Option Failure := none
  /-- The analyses that were run, first one first. -/
  phases : List Phase := []
  deriving Inhabited

namespace Outcome

/-- Whether the run completed without warnings. -/
def isSuccess (o : Outcome) : Bool := o.status = .success

/-- A phase as a document. -/
def phaseDocument (p : Phase) : Json :=
  .obj [("name", .str p.name), ("plt", .str p.plt), ("files", .int p.files),
    ("status", .str p.status.name), ("warnings", .int p.warnings)]

/-- The outcome as the fields of a document. -/
def fields (o : Outcome) : List (String × Json) :=
  [("status", .str o.status.name),
   ("warnings", .int o.warnings),
   ("output", (o.output.map fun p => Json.str p.text).getD .null),
   ("error", (o.error.map fun e => Json.str e.message).getD .null),
   ("phases", .arr (o.phases.map phaseDocument))]

end Outcome

end PltKeeper
