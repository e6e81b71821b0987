import PltKeeper.Json.Printer
import PltKeeper.Log.Record

/-!
Log messages as documents, one on a line, for machines to read. Levels are numbers there, times
whole milliseconds, and what is logged besides the message stands beside it; a key that is given
again keeps its place and takes the new value.
-/

namespace PltKeeper.Log

/-- A log message with what belongs to it. -/
structure Entry where
  /-- The name of its level. -/
  level : String
  /-- When it was logged, in seconds. -/
  seconds : Binary64
  /-- The message. -/
  message : String
  /-- The process that logged it. -/
  pid : Int := 1
  /-- The module that logged it. -/
  origin : Option String := none
  /-- What is logged besides. -/
  extra : List (String × Json) := []
  /-- The error that is logged with it: its type and its text, as far as they are known. -/
  error : Option (Option String × Option String) := none

/-- The number of a level. One that is not known counts as a message of interest to every user. -/
def levelNumber (name : String) : Int :=
  match Level.ofName? name with
  | some .trace => 10
  | some .debug => 20
  | some .info | some .success | none => 30
  | some .warning => 40
  | some .error => 50
  | some .critical => 60

/-- Whole milliseconds. The product is rounded as machine numbers are, then cut off. -/
def milliseconds (seconds : Binary64) : Int :=
  ((Binary64.ofFloat (seconds.toFloat * 1000.0)).truncate?).getD 0

/-- The fields of every message. -/
def Entry.base (e : Entry) : List (String × Json) :=
  [("level", .int (levelNumber e.level)),
   ("time", .int (milliseconds e.seconds)),
   ("msg", .str e.message),
   ("pid", .int e.pid),
   ("module", (e.origin.map Json.str).getD .null)]

/-- A message as a document. -/
def Entry.document (e : Entry) : Json :=
  let fields := e.extra.foldl (fun fields f => Json.putField fields f.1 f.2) e.base
  match e.error with
  | none => .obj fields
  | some (type, text) => .obj (Json.putField fields "err"
      (.obj [("type", .str (type.getD "Error")), ("message", .str (text.getD ""))]))

/-- A message on a line. -/
def Entry.line (e : Entry) : String := e.document.line

end PltKeeper.Log
