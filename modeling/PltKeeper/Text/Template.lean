import PltKeeper.Text.Digit

/-!
Texts with fields. A field stands between braces and is replaced by the value of its name; a brace
that is written twice stands for itself. The whole text is read before a field is replaced, so that
a brace out of place counts before a name without a value.
-/

namespace PltKeeper.Text.Template

/-- A part of a text with fields. -/
inductive Piece
  | char (c : Char)
  | field (name : List Char)
  deriving DecidableEq, Repr

/-- What is wrong with a text with fields. -/
inductive Fault
  /-- An opening brace ends the text. -/
  | strayOpening
  /-- A closing brace closes nothing. -/
  | strayClosing
  /-- The text ends within a name. -/
  | unclosed
  /-- A brace opens within a name. -/
  | openingInName
  /-- The text ends where a conversion should be named. -/
  | conversionMissing
  /-- A conversion is named with more than one character. -/
  | conversionTooLong
  /-- The text ends within the description of a format. -/
  | formatUnclosed
  /-- A field has no name, or a number for one. -/
  | unnamed
  /-- A name has no value. -/
  | unknown (name : String)
  deriving DecidableEq, Repr

/-- The fault in words. -/
def Fault.message : Fault → String
  | strayOpening => "Single '\x7b' encountered in format string"
  | strayClosing => "Single '\x7d' encountered in format string"
  | unclosed => "expected '\x7d' before end of string"
  | openingInName => "unexpected '\x7b' in field name"
  | conversionMissing => "end of string while looking for conversion specifier"
  | conversionTooLong => "expected ':' after conversion specifier"
  | formatUnclosed => "unmatched '\x7b' in format spec"
  | unnamed => "Format string contains positional fields"
  | unknown name => name

/-- Where in a text with fields the reader is. Within a field it holds what was read of the name,
last character first. -/
inductive Place
  /-- Between fields. -/
  | outside
  /-- Within the name of a field. -/
  | name (read : List Char)
  /-- Within the brackets of an index, where braces are part of the name. -/
  | index (read : List Char)
  /-- After the mark of a conversion. -/
  | conversion (read : List Char)
  /-- After a conversion. -/
  | converted (read : List Char)
  /-- Within the description of a format, in which so many braces are open. -/
  | format (read : List Char) (opened : Nat)

/-- The pieces of a text, from a place on. -/
def pieces : Place → List Char → Except Fault (List Piece)
  | .outside, [] => .ok []
  | .outside, '{' :: '{' :: rest => (pieces .outside rest).map (.char '{' :: ·)
  | .outside, '}' :: '}' :: rest => (pieces .outside rest).map (.char '}' :: ·)
  | .outside, ['{'] => .error .strayOpening
  | .outside, '{' :: rest => pieces (.name []) rest
  | .outside, '}' :: _ => .error .strayClosing
  | .outside, c :: rest => (pieces .outside rest).map (.char c :: ·)
  | .name _, [] | .index _, [] => .error .unclosed
  | .name read, '}' :: rest => (pieces .outside rest).map (.field read.reverse :: ·)
  | .name read, ':' :: rest => pieces (.format read 0) rest
  | .name read, '!' :: rest => pieces (.conversion read) rest
  | .name read, '[' :: rest => pieces (.index ('[' :: read)) rest
  | .name _, '{' :: _ => .error .openingInName
  | .name read, c :: rest => pieces (.name (c :: read)) rest
  | .index read, ']' :: rest => pieces (.name (']' :: read)) rest
  | .index read, c :: rest => pieces (.index (c :: read)) rest
  | .conversion _, [] => .error .conversionMissing
  | .conversion read, _ :: rest => pieces (.converted read) rest
  | .converted _, [] | .format _ _, [] => .error .formatUnclosed
  | .converted read, '}' :: rest => (pieces .outside rest).map (.field read.reverse :: ·)
  | .converted read, ':' :: rest => pieces (.format read 0) rest
  | .converted _, _ :: _ => .error .conversionTooLong
  | .format read 0, '}' :: rest => (pieces .outside rest).map (.field read.reverse :: ·)
  | .format read (n + 1), '}' :: rest => pieces (.format read n) rest
  | .format read n, '{' :: rest => pieces (.format read (n + 1)) rest
  | .format read n, _ :: rest => pieces (.format read n) rest

/-- What a piece stands for. The name of a field ends where a part of its value is asked for. -/
def Piece.value (values : List (String × String)) : Piece → Except Fault (List Char)
  | char c => .ok [c]
  | field name =>
    let name := name.takeWhile fun c => c ≠ '.' && c ≠ '['
    if name.all isDigit then .error .unnamed
    else match values.lookup (String.ofList name) with
      | some value => .ok value.toList
      | none => .error (.unknown (String.ofList name))

/-- The text that a text with fields stands for. -/
def expand (values : List (String × String)) (s : List Char) : Except Fault (List Char) := do
  let found ← (← pieces .outside s).mapM (Piece.value values)
  return found.flatten

end PltKeeper.Text.Template
