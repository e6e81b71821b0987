import PltKeeper.Json.Value

/-!
Writing documents. Texts are written in ASCII, all else escaped. `line` puts a document on one line
with a space after commas and colons; `page` indents by two columns a level.
-/

namespace PltKeeper.Json

/-- A code unit of sixteen bits as an escape. -/
def unitEscape (n : Nat) : List Char := '\\' :: 'u' :: Text.hexPad 4 n

/-- One character of a written text. Characters beyond sixteen bits take two units. -/
def writtenChar (c : Char) : List Char :=
  if c = '"' || c = '\\' then ['\\', c]
  else if c = '\n' then ['\\', 'n']
  else if c = '\r' then ['\\', 'r']
  else if c = '\t' then ['\\', 't']
  else if c = '\x0c' then ['\\', 'f']
  else if c = '\x08' then ['\\', 'b']
  else if 32 ≤ c.toNat && c.toNat < 127 then [c]
  else if c.toNat < 0x10000 then unitEscape c.toNat
  else if Text.isHalf c then Text.escapedHalf c
  else
    let n := c.toNat - 0x10000
    unitEscape (0xd800 + n / 0x400) ++ unitEscape (0xdc00 + n % 0x400)

/-- A text between quotes. -/
def writtenText (s : String) : String :=
  String.ofList ('"' :: s.toList.flatMap writtenChar ++ ['"'])

/-- A value that holds no other. -/
def writtenScalar : Json → String
  | null => "null"
  | bool b => if b then "true" else "false"
  | int n => toString n
  | real x => x.text Binary64.document
  | str s => writtenText s
  | arr _ => "[]"
  | obj _ => "\x7b\x7d"

mutual

/-- A document on one line. -/
def line : Json → String
  | arr items => "[" ++ ", ".intercalate (lineItems items) ++ "]"
  | obj fields => "\x7b" ++ ", ".intercalate (lineFields fields) ++ "\x7d"
  | value => value.writtenScalar

/-- The items of a list, each on one line. -/
def lineItems : List Json → List String
  | [] => []
  | item :: rest => line item :: lineItems rest

/-- The fields of an object, each on one line. -/
def lineFields : List (String × Json) → List String
  | [] => []
  | (key, value) :: rest => (writtenText key ++ ": " ++ line value) :: lineFields rest

end

/-- A line break and the indentation of a level. -/
def breakAt (level : Nat) : String := String.ofList ('\n' :: List.replicate (2 * level) ' ')

/-- Parts between brackets, each on a line of its own one level in. -/
def bracketed (opening closing : String) (level : Nat) (parts : List String) : String :=
  if parts.isEmpty then opening ++ closing
  else opening ++ breakAt (level + 1) ++ ("," ++ breakAt (level + 1)).intercalate parts ++
    breakAt level ++ closing

mutual

/-- A document over several lines, seen from an indentation level. -/
def pageAt (level : Nat) : Json → String
  | arr items => bracketed "[" "]" level (pageItems (level + 1) items)
  | obj fields => bracketed "\x7b" "\x7d" level (pageFields (level + 1) fields)
  | value => value.writtenScalar

/-- The items of a list at a level. -/
def pageItems (level : Nat) : List Json → List String
  | [] => []
  | item :: rest => pageAt level item :: pageItems level rest

/-- The fields of an object at a level. -/
def pageFields (level : Nat) : List (String × Json) → List String
  | [] => []
  | (key, value) :: rest => (writtenText key ++ ": " ++ pageAt level value) :: pageFields level rest

end

/-- A document over several lines. -/
def page (value : Json) : String := pageAt 0 value

end PltKeeper.Json
