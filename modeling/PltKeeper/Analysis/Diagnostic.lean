/-!
Warnings as an analysis returns them, and the line in which each is reported.
-/

namespace PltKeeper

/-- One warning of an analysis. -/
structure Diagnostic where
  /-- The source file, empty if the warning is tied to none. -/
  file : String
  /-- The line, zero if the warning is tied to none. -/
  line : Int
  /-- The warning in words. -/
  message : String
  /-- The column, where it is known. -/
  column : Option Int := none
  /-- The category, where it is known. -/
  tag : Option String := none
  deriving DecidableEq, Repr, Inhabited

namespace Diagnostic

/-- The position of a warning: its file, line and column. -/
def position (d : Diagnostic) : String :=
  d.file ++ ":" ++ toString d.line ++
    match d.column with
    | some column => ":" ++ toString column
    | none => ""

/-- The warning after its position, the form in which an analysis prints it. -/
def format (d : Diagnostic) : String := d.position ++ ": " ++ d.message

/-- The position that stands before a warning tied to no source. -/
def unknownPosition : List Char := [':', '0', ':', ' ']

/-- A list without the line feeds at its end. -/
def dropLineFeeds (s : List Char) : List Char := (s.reverse.dropWhile (· = '\n')).reverse

/-- The line in which a warning is reported: its printed form, without line feeds at the end and
without an unknown position. -/
def reported (d : Diagnostic) : String :=
  let text := dropLineFeeds d.format.toList
  String.ofList ((unknownPosition.isPrefixOf? text).getD text)

end Diagnostic

end PltKeeper
