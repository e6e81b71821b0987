import PltKeeper.Text.Numeral
import PltKeeper.Text.Word
import PltKeeper.Failure

/-!
Names of application directories. A directory may carry a version after its application's name, as
in `stdlib-5.1`. The name is the shortest that leaves a version: at least one character, no line
feed, a hyphen, then a digit followed by word characters, dots, hyphens and plus signs only.
-/

namespace PltKeeper

/-- An application directory's name taken apart. -/
structure AppDirectory where
  /-- The application. -/
  name : String
  /-- Its version, empty if the directory carries none. -/
  version : String
  deriving DecidableEq, Repr

namespace AppDirectory

/-- A character that may follow the first digit of a version. -/
def isVersionChar (c : Char) : Bool := Text.isWord c || c = '.' || c = '-' || c = '+'

/-- A text without one line feed at its end. -/
def dropFinalLineFeed (s : List Char) : List Char :=
  if s.getLast? = some '\n' then s.dropLast else s

/-- The version that a text is, without a line feed at its end. -/
def version? : List Char → Option (List Char)
  | d :: rest =>
    let body := dropFinalLineFeed rest
    if Text.isDigit d && body.all isVersionChar then some (d :: body) else none
  | [] => none

/-- The parts of a name, `read` being what stands before, last character first. -/
def splitFrom (read : List Char) : List Char → Option (List Char × List Char)
  | [] => none
  | c :: rest =>
    match if c = '-' && !read.isEmpty then version? rest else none with
    | some version => some (read.reverse, version)
    | none => if c = '\n' then none else splitFrom (c :: read) rest

/-- Takes a directory's name apart. -/
def ofName (s : String) : AppDirectory :=
  match splitFrom [] s.toList with
  | some (name, version) => ⟨String.ofList name, String.ofList version⟩
  | none => ⟨s, ""⟩

/-- The rank of one component of a version: its number, or -1 if it does not look like one. -/
def componentRank (part : List Char) : Except Failure Int :=
  if !part.isEmpty && part.all Text.isDigitLike then
    match Text.readInt part with
    | .ok n => .ok n
    | .error fault => .error (.badValue (fault.message (String.ofList part)))
  else .ok (-1)

/-- The characters between the components of a version. -/
def isSeparator (c : Char) : Bool := c = '.' || c = '-' || c = '+'

/-- The ranks of a version's components. A component that looks like a number and is none is a
failure. -/
def versionKey (version : String) : Except Failure (List Int) :=
  (version.toList.splitOnP isSeparator).mapM componentRank

end AppDirectory

end PltKeeper
