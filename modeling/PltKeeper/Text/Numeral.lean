import PltKeeper.Text.Blank
import PltKeeper.Text.Digit
import PltKeeper.Text.Quoted
import PltKeeper.Text.LetterCase
import PltKeeper.Decimal.Binary64

/-!
Reading whole numbers and decimals from text. Both may stand between blanks, may have a sign and
single underscores between digits, and may use the digits of any script.
-/

namespace PltKeeper.Text

/-- A character of a numeral in its ASCII spelling: digits of every script become ASCII digits,
blanks outside ASCII become spaces, and a question mark, which no numeral holds, stands for the
rest. -/
def plainNumeralChar (c : Char) : Char :=
  if c.toNat < 127 then c
  else if isBlank c then ' '
  else match digitValue? c with
    | some d => Nat.digitChar d
    | none => '?'

/-- The blanks that may surround a numeral once it is in its ASCII spelling. -/
def isPadding (c : Char) : Bool := c = ' ' || (9 ≤ c.toNat && c.toNat ≤ 13)

/-- A numeral in its ASCII spelling without the blanks around it. -/
def plainNumeral (s : List Char) : List Char :=
  dropEndWhile isPadding ((s.map plainNumeralChar).dropWhile isPadding)

/-- Splits off a sign; true stands for minus. -/
def splitSign : List Char → Bool × List Char
  | '-' :: rest => (true, rest)
  | '+' :: rest => (false, rest)
  | s => (false, s)

/-- Splits off the longest run of ASCII digits in which single underscores may stand between two
digits; `after` tells whether a digit stands before. -/
def digitRun (after : Bool) : List Char → List Char × List Char
  | '_' :: c :: rest =>
    if after && c.isDigit then
      let run := digitRun true rest
      (c :: run.1, run.2)
    else ([], '_' :: c :: rest)
  | c :: rest =>
    if c.isDigit then
      let run := digitRun true rest
      (c :: run.1, run.2)
    else ([], c :: rest)
  | [] => ([], [])

/-- The number that ASCII digits spell. -/
def ofDigits (ds : List Char) : Nat := ds.foldl (fun n d => 10 * n + (d.toNat - 48)) 0

/-- Why a text is no whole number. -/
inductive NumeralFault
  /-- It is not spelled as one. -/
  | malformed
  /-- It has more digits than are accepted. -/
  | tooLong (digits : Nat)
  deriving DecidableEq, Repr

/-- The most digits that a whole number may have. -/
def digitLimit : Nat := 4300

/-- The whole number that a text spells. -/
def readInt (s : List Char) : Except NumeralFault Int :=
  let (negative, body) := splitSign (plainNumeral s)
  let (ds, rest) := digitRun false body
  if ds.isEmpty || rest.head? = some '_' then .error .malformed
  else if digitLimit < ds.length then .error (.tooLong ds.length)
  else if rest.isEmpty then
    .ok (if negative then -(ofDigits ds : Int) else ofDigits ds)
  else .error .malformed

/-- What is wrong with a text that is no whole number. A long text is quoted only in part. -/
def NumeralFault.message (s : String) : NumeralFault → String
  | .malformed =>
    "invalid literal for int() with base 10: " ++ String.ofList ((quoted s).toList.take 200)
  | .tooLong digits =>
    s!"Exceeds the limit ({digitLimit} digits) for integer string conversion: " ++
      s!"value has {digits} digits; use sys.set_int_max_str_digits() to increase the limit"

/-- The exponent at the end of a decimal; an absent one is zero. -/
def readExponent : List Char → Option Int
  | [] => some 0
  | e :: rest =>
    if e = 'e' || e = 'E' then
      let (negative, body) := splitSign rest
      let (ds, rest) := digitRun false body
      if ds.isEmpty || !rest.isEmpty then none
      else some (if negative then -(ofDigits ds : Int) else ofDigits ds)
    else none

/-- The number that an unsigned decimal spells. -/
def readUnsigned (negative : Bool) (s : List Char) : Option Binary64 :=
  let (whole, rest) := digitRun false s
  let (fraction, rest) := match rest with
    | '.' :: rest => digitRun false rest
    | rest => ([], rest)
  if whole.isEmpty && fraction.isEmpty then none
  else (readExponent rest).map fun e =>
    Binary64.ofDecimal negative (ofDigits (whole ++ fraction)) (e - fraction.length)

/-- The number that a decimal, or one of the words for the infinities and for no number, spells. -/
def readDecimal (s : List Char) : Option Binary64 :=
  let (negative, body) := splitSign (plainNumeral s)
  let word := lowerAscii body
  if word = "inf".toList || word = "infinity".toList then some (Binary64.infinity negative)
  else if word = "nan".toList then some Binary64.nan
  else readUnsigned negative body

end PltKeeper.Text
