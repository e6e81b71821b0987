import PltKeeper.Text.Printable
import PltKeeper.Text.Surrogate

/-!
Quoted text, the form in which messages show a value. Single quotes enclose it, or double quotes
where the text holds a single quote and no double one; backslashes, the enclosing quote,
unprintable characters and halves of surrogate pairs are escaped.
-/

namespace PltKeeper.Text

/-- A hexadecimal digit, in lower case. -/
def hexDigit (n : Nat) : Char := Nat.digitChar (n % 16)

/-- The last `width` hexadecimal digits of a number. -/
def hexPad : Nat → Nat → List Char
  | 0, _ => []
  | width + 1, n => hexPad width (n / 16) ++ [hexDigit n]

/-- The escape that spells a half of a surrogate pair. -/
def escapedHalf (c : Char) : List Char := '\\' :: 'u' :: hexPad 4 (unitOf c)

/-- A text in which every half of a surrogate pair is escaped. -/
def spelled (s : String) : String :=
  String.ofList (s.toList.flatMap fun c => if isHalf c then escapedHalf c else [c])

/-- One character of a quoted text. -/
def quotedChar (quote c : Char) : List Char :=
  if c = quote || c = '\\' then ['\\', c]
  else if c = '\n' then ['\\', 'n']
  else if c = '\r' then ['\\', 'r']
  else if c = '\t' then ['\\', 't']
  else if isHalf c then escapedHalf c
  else if isPrintable c then [c]
  else if c.toNat < 0x100 then '\\' :: 'x' :: hexPad 2 c.toNat
  else if c.toNat < 0x10000 then '\\' :: 'u' :: hexPad 4 c.toNat
  else '\\' :: 'U' :: hexPad 8 c.toNat

/-- The quote that encloses a text. -/
def enclosingQuote (s : List Char) : Char :=
  if s.contains '\'' && !s.contains '"' then '"' else '\''

/-- A text between quotes, escaped so that it can be read back. -/
def quoted (s : String) : String :=
  let quote := enclosingQuote s.toList
  String.ofList (quote :: s.toList.flatMap (quotedChar quote) ++ [quote])

end PltKeeper.Text
