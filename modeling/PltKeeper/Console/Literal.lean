import PltKeeper.Text.Numeral
import PltKeeper.Text.Word

/-!
Literal values, as the arguments of a handler in a tag are written: numbers, texts, bytes, words,
and tuples, lists, sets and mappings of them. Only whether a text is one is of interest. That takes
a little of the value, too: a sum joins a number and an imaginary one, and neither the elements of a
set nor the keys of a mapping may be collections that can change.
-/

namespace PltKeeper.Console

/-- What a literal is, as far as it decides where it may stand. -/
inductive Literal
  /-- A number without a sign. -/
  | number (imaginary : Bool)
  /-- A number with a sign. -/
  | signed (imaginary : Bool)
  /-- Any other value that cannot change. -/
  | constant
  /-- A collection that can change, or a tuple that holds one. -/
  | changing
  deriving DecidableEq, Repr

namespace Literal

/-- Whether the value can be looked up, as elements of sets and keys of mappings are. -/
def isFixed (l : Literal) : Bool := l ≠ changing

/-- Whether a character ends a line. -/
def endsLine (c : Char) : Bool := c = '\n' || c = '\r'

/-- Without the blanks and comments at the front; `comment` tells whether the text begins within a
comment. Within brackets, line ends are blanks, too. -/
def skipFrom (bracketed comment : Bool) : List Char → List Char
  | [] => []
  | c :: rest =>
    if endsLine c then if bracketed then skipFrom bracketed false rest else c :: rest
    else if comment || c = '#' then skipFrom bracketed true rest
    else if c = ' ' || c = '\t' || c = '\x0c' then skipFrom bracketed false rest
    else c :: rest

/-- Without the blanks and comments at the front. -/
def skipBlanks (bracketed : Bool) (s : List Char) : List Char := skipFrom bracketed false s

/-! ## Numbers -/

/-- A digit in any base up to sixteen. -/
def isHexDigit (c : Char) : Bool := c.isDigit || ('a' ≤ c.toLower && c.toLower ≤ 'f')

/-- Reads digits, each of which may have an underscore before it; says how many there are. -/
def prefixedDigits (isOne : Char → Bool) : List Char → Nat × List Char
  | '_' :: c :: rest =>
    if isOne c then
      let (n, rest) := prefixedDigits isOne rest
      (n + 1, rest)
    else (0, '_' :: c :: rest)
  | c :: rest =>
    if isOne c then
      let (n, rest) := prefixedDigits isOne rest
      (n + 1, rest)
    else (0, c :: rest)
  | [] => (0, [])

/-- The digits of the base that a letter after a zero stands for. -/
def digitsOf? (mark : Char) : Option (Char → Bool) :=
  match mark.toLower with
  | 'x' => some isHexDigit
  | 'o' => some fun c => '0' ≤ c && c ≤ '7'
  | 'b' => some fun c => c = '0' || c = '1'
  | _ => none

/-- Reads a fraction, whose digits may be missing; says whether there is a point, and its digits. -/
def readFraction : List Char → Bool × List Char × List Char
  | '.' :: rest => (true, Text.digitRun false rest)
  | s => (false, [], s)

/-- Reads an exponent, if there is one; says whether there is. -/
def readExponent (s : List Char) : Bool × List Char :=
  match s with
  | e :: rest =>
    let (ds, after) := Text.digitRun false (Text.splitSign rest).2
    if (e = 'e' || e = 'E') && !ds.isEmpty then (true, after) else (false, s)
  | [] => (false, [])

/-- Whether decimal digits may be a whole number: not too many, and no leading zero but in zero. -/
def isWhole (ds : List Char) : Bool :=
  ds.length ≤ Text.digitLimit && (ds.head? ≠ some '0' || ds.all (· = '0'))

/-- Reads a decimal number. -/
def readDecimal (s : List Char) : Option (Literal × List Char) :=
  let (whole, rest) := Text.digitRun false s
  let (point, fraction, rest) := readFraction rest
  let (exponent, rest) := readExponent rest
  if whole.isEmpty && fraction.isEmpty then none
  else
    match rest with
    | 'j' :: rest | 'J' :: rest => some (number true, rest)
    | rest => if point || exponent || isWhole whole then some (number false, rest) else none

/-- Reads a number without a sign. -/
def readNumber (s : List Char) : Option (Literal × List Char) :=
  match s with
  | '0' :: mark :: rest =>
    match digitsOf? mark with
    | some isOne =>
      let (n, rest) := prefixedDigits isOne rest
      if n = 0 then none else some (number false, rest)
    | none => readDecimal s
  | _ => readDecimal s

/-! ## Texts and bytes -/

/-- How a text is written. -/
structure Quoting where
  /-- Whether backslashes stand for themselves. -/
  raw : Bool
  /-- Whether it is made of bytes. -/
  bytes : Bool
  deriving DecidableEq, Repr

/-- The letters that may stand before a quote. -/
def quotings : List (List Char × Quoting) :=
  [([], ⟨false, false⟩), (['r'], ⟨true, false⟩), (['u'], ⟨false, false⟩), (['b'], ⟨false, true⟩),
   (['b', 'r'], ⟨true, true⟩), (['r', 'b'], ⟨true, true⟩)]

/-- Whether a text begins with so many hexadecimal digits. -/
def beginsWithHex (n : Nat) (s : List Char) : Bool :=
  (s.take n).length = n && (s.take n).all isHexDigit

/-- Whether eight hexadecimal digits do not exceed the last code point. -/
def isCodePoint : List Char → Bool
  | '0' :: '0' :: '0' :: _ => true
  | '0' :: '0' :: '1' :: '0' :: _ => true
  | _ => false

/-- Whether a text begins with a name in braces. -/
def beginsWithName (s : List Char) : Bool :=
  match s with
  | '\x7b' :: c :: rest => c ≠ '\x7d' && rest.contains '\x7d'
  | _ => false

/-- Whether an escape may stand before the rest of a text. -/
def fits (q : Quoting) (escape : Char) (rest : List Char) : Bool :=
  if q.raw then true
  else match escape with
    | 'x' => beginsWithHex 2 rest
    | 'u' => q.bytes || beginsWithHex 4 rest
    | 'U' => q.bytes || (beginsWithHex 8 rest && isCodePoint rest)
    | 'N' => q.bytes || beginsWithName rest
    | _ => true

/-- Whether a character may stand in a text by itself. -/
def mayStand (q : Quoting) (long : Bool) (c : Char) : Bool :=
  (long || !endsLine c) && (!q.bytes || c.toNat < 128)

/-- What follows a text after its opening quote. A long text ends with three quotes. -/
def afterText (q : Quoting) (long : Bool) (quote : Char) : List Char → Option (List Char)
  | [] => none
  | ['\\'] => none
  | '\\' :: c :: rest =>
    if fits q c rest && (!q.bytes || c.toNat < 128) then afterText q long quote rest else none
  | c :: rest =>
    if c ≠ quote then
      if mayStand q long c then afterText q long quote rest else none
    else if !long then some rest
    else if [quote, quote].isPrefixOf rest then some (rest.drop 2)
    else afterText q long quote rest

/-- Reads one text or one piece of bytes; says whether it is made of bytes. -/
def readText (s : List Char) : Option (Bool × List Char) := do
  let letters := s.takeWhile Char.isAlpha
  let q ← quotings.lookup (letters.map Char.toLower)
  match s.drop letters.length with
  | quote :: rest =>
    if quote ≠ '\'' && quote ≠ '"' then none
    else
      let long := [quote, quote].isPrefixOf rest
      let rest ← afterText q long quote (if long then rest.drop 2 else rest)
      some (q.bytes, rest)
  | [] => none

/-- Reads the texts that follow a text and continue it. Text and bytes do not mix. -/
def readMore (bracketed bytes : Bool) : Nat → List Char → Option (List Char)
  | 0, _ => none
  | fuel + 1, s =>
    match readText (skipBlanks bracketed s) with
    | some (more, rest) => if more = bytes then readMore bracketed bytes fuel rest else none
    | none => some s

/-! ## Values -/

/-- The words that are values. -/
def words : List (List Char) := ["True".toList, "False".toList, "None".toList]

/-- Reads a word, three points, or the empty set as it is called. -/
def readWord (bracketed : Bool) (s : List Char) : Option (Literal × List Char) :=
  let name := s.takeWhile Text.isWord
  let rest := s.drop name.length
  if words.contains name then some (constant, rest)
  else if name = "set".toList then
    match skipBlanks bracketed rest with
    | '(' :: rest =>
      match skipBlanks true rest with
      | ')' :: rest => some (changing, rest)
      | _ => none
    | _ => none
  else match s with
    | '.' :: '.' :: '.' :: rest => some (constant, rest)
    | _ => none

/-- Reads a value without brackets. -/
def readPlain (bracketed : Bool) (s : List Char) : Option (Literal × List Char) :=
  match readText s with
  | some (bytes, rest) =>
    (readMore bracketed bytes (rest.length + 1) rest).map fun rest => (constant, rest)
  | none =>
    match readNumber s with
    | some found => some found
    | none => readWord bracketed s

/-- The value of elements between round brackets; a single one without a comma is the value itself,
any others are a tuple. -/
def ofTuple : List Literal → Bool → Literal
  | [l], false => l
  | ls, _ => if ls.all isFixed then constant else changing

/-- The value of a sum. -/
def sum? : Literal → Literal → Option Literal
  | number false, number true | signed false, number true => some constant
  | _, _ => none

mutual

/-- Reads a value: one without a sign, a number with a sign, or a sum. Brackets may be nested
`levels` deep. -/
def readValue (levels : Nat) (bracketed : Bool) : Nat → List Char → Option (Literal × List Char)
  | 0, _ => none
  | fuel + 1, s => do
    let (first, rest) ← readOperand levels bracketed fuel s
    match skipBlanks bracketed rest with
    | '+' :: more | '-' :: more =>
      let (second, rest) ← readUnsigned levels bracketed fuel (skipBlanks bracketed more)
      let sum ← sum? first second
      some (sum, rest)
    | _ => some (first, rest)
termination_by structural fuel => fuel

/-- Reads a value that is no sum. -/
def readOperand (levels : Nat) (bracketed : Bool) : Nat → List Char → Option (Literal × List Char)
  | 0, _ => none
  | fuel + 1, s =>
    match s with
    | '+' :: rest | '-' :: rest =>
      match readUnsigned levels bracketed fuel (skipBlanks bracketed rest) with
      | some (number imaginary, rest) => some (signed imaginary, rest)
      | _ => none
    | s => readUnsigned levels bracketed fuel s
termination_by structural fuel => fuel

/-- Reads a value without a sign. -/
def readUnsigned (levels : Nat) (bracketed : Bool) :
    Nat → List Char → Option (Literal × List Char)
  | 0, _ => none
  | fuel + 1, s =>
    match s with
    | '(' :: rest =>
      if levels = 0 then none
      else (readElements (levels - 1) ')' [] false fuel (skipBlanks true rest)).map
        fun (ls, comma, rest) => (ofTuple ls comma, rest)
    | '[' :: rest =>
      if levels = 0 then none
      else (readElements (levels - 1) ']' [] false fuel (skipBlanks true rest)).map
        fun (_, _, rest) => (changing, rest)
    | '\x7b' :: rest =>
      if levels = 0 then none
      else (readEntries (levels - 1) none fuel (skipBlanks true rest)).map
        fun rest => (changing, rest)
    | s => readPlain bracketed s
termination_by structural fuel => fuel

/-- Reads elements up to a closing bracket; `read` holds those before, and `comma` tells whether a
comma was read. -/
def readElements (levels : Nat) (close : Char) (read : List Literal) (comma : Bool) :
    Nat → List Char → Option (List Literal × Bool × List Char)
  | 0, _ => none
  | fuel + 1, s =>
    if s.head? = some close then some (read, comma, s.tail)
    else do
      let (l, rest) ← readValue levels true fuel s
      match skipBlanks true rest with
      | ',' :: rest => readElements levels close (l :: read) true fuel (skipBlanks true rest)
      | c :: rest => if c = close then some (l :: read, comma, rest) else none
      | [] => none
termination_by structural fuel => fuel

/-- Reads the elements of a set or the entries of a mapping up to the closing brace. `paired` tells,
once it is known, whether it is a mapping. -/
def readEntries (levels : Nat) (paired : Option Bool) : Nat → List Char → Option (List Char)
  | 0, _ => none
  | fuel + 1, s =>
    if s.head? = some '\x7d' then some s.tail
    else do
      let (l, rest) ← readValue levels true fuel s
      let (pair, rest) ← match skipBlanks true rest with
        | ':' :: rest =>
          (readValue levels true fuel (skipBlanks true rest)).map fun (_, rest) => (true, rest)
        | rest => some (false, rest)
      if !l.isFixed || paired = some !pair then none
      else match skipBlanks true rest with
        | ',' :: rest => readEntries levels (some pair) fuel (skipBlanks true rest)
        | '\x7d' :: rest => some rest
        | _ => none
termination_by structural fuel => fuel

end

/-- How deep brackets may be nested. -/
def depthLimit : Nat := 200

/-- Whether values between commas make up the rest of a text. -/
def areValues : Nat → List Char → Bool
  | 0, _ => false
  | fuel + 1, s =>
    match readValue depthLimit false (3 * s.length + 3) s with
    | none => false
    | some (_, rest) =>
      match skipBlanks false rest with
      | [] => true
      | ',' :: rest =>
        let rest := skipBlanks false rest
        rest.isEmpty || areValues fuel rest
      | _ => false

/-- Whether a text is a literal value. Values between commas are a tuple. -/
def isLiteral (s : List Char) : Bool :=
  !s.contains '\x00' && areValues (s.length + 1) (skipBlanks false s)

end Literal

end PltKeeper.Console
