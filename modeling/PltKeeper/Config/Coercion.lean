import PltKeeper.Text.Numeral
import PltKeeper.Json.Value

/-!
Reading the text of an environment variable as a value of the type that another value has.
-/

namespace PltKeeper.Config

/-- The texts that mean yes. -/
def yes : List String := ["1", "true", "yes", "on"]

/-- The texts that mean no. -/
def no : List String := ["0", "false", "no", "off"]

/-- The truth value that a text means, in any letter case and between blanks. -/
def readBool (s : String) : Except String Bool :=
  let word := String.ofList (Text.lowerAscii (Text.strip s.toList))
  if word ∈ yes then .ok true
  else if word ∈ no then .ok false
  else .error ("not a boolean: " ++ Text.quoted s)

/-- The items of a text that lists them between commas. Blanks around an item and empty items do not
count. -/
def readList (s : String) : List String :=
  ((s.toList.splitOn ',').map fun item => String.ofList (Text.strip item)).filter (· ≠ "")

/-- Reads a text as a value of the type of `like`. A value that no text spells takes the text
itself. -/
def coerce (s : String) (like : Json) : Except String Json :=
  match like with
  | .bool _ => (readBool s).map Json.bool
  | .int _ => ((Text.readInt s.toList).mapError (·.message s)).map Json.int
  | .real _ =>
    match Text.readDecimal s.toList with
    | some x => .ok (.real x)
    | none => .error ("could not convert string to float: " ++ Text.quoted s)
  | .arr _ => .ok (.arr ((readList s).map Json.str))
  | _ => .ok (.str s)

end PltKeeper.Config
