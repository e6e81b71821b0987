import PltKeeper.Json.Value
import PltKeeper.Text.Numeral

/-!
Reading documents. The reader is strict: one value between blanks, no comments, no trailing commas,
no raw control characters in texts, no byte order mark. It also takes the words for the infinities
and for no number, and refuses whole numbers with too many digits and values nested too deeply, each
by a fault of its own. The first fault in the text is the one that counts.
-/

namespace PltKeeper.Json

/-- Why a text is no document. -/
inductive Fault
  /-- It is not written as one. -/
  | malformed
  /-- A whole number in it has too many digits. -/
  | numberTooLong (digits : Nat)
  /-- A list or an object stands within too many others. -/
  | tooDeep (isObject : Bool)
  deriving DecidableEq, Repr

/-- The blanks between the parts of a document. -/
def isGap (c : Char) : Bool := c = ' ' || c = '\t' || c = '\n' || c = '\r'

/-- Without the blanks at the front. -/
def skipGap (s : List Char) : List Char := s.dropWhile isGap

/-- The value of a hexadecimal digit. -/
def hexValue? (c : Char) : Option Nat :=
  if c.isDigit then some (c.toNat - 48)
  else if 'a' ≤ c && c ≤ 'f' then some (c.toNat - 87)
  else if 'A' ≤ c && c ≤ 'F' then some (c.toNat - 55)
  else none

/-- The code unit that four hexadecimal digits spell. -/
def readUnit : List Char → Option (Nat × List Char)
  | a :: b :: c :: d :: rest => do
    let a ← hexValue? a
    let b ← hexValue? b
    let c ← hexValue? c
    let d ← hexValue? d
    some (((a * 16 + b) * 16 + c) * 16 + d, rest)
  | _ => none

/-- The character that an escaped code unit begins: a high surrogate takes the low one that is
escaped after it. A surrogate alone stays the half that it is. -/
def readEscapedUnit (s : List Char) : Option (Char × List Char) := do
  let (unit, rest) ← readUnit s
  if 0xd800 ≤ unit && unit ≤ 0xdbff then
    match rest with
    | '\\' :: 'u' :: more =>
      match readUnit more with
      | some (low, rest') =>
        if 0xdc00 ≤ low && low ≤ 0xdfff then
          some (Char.ofNat (0x10000 + (unit - 0xd800) * 0x400 + (low - 0xdc00)), rest')
        else some (Text.half unit, rest)
      | none => some (Text.half unit, rest)
    | _ => some (Text.half unit, rest)
  else if 0xdc00 ≤ unit && unit ≤ 0xdfff then some (Text.half unit, rest)
  else some (Char.ofNat unit, rest)

/-- The character that a one letter escape stands for. -/
def escapeChar? : Char → Option Char
  | '"' => some '"'
  | '\\' => some '\\'
  | '/' => some '/'
  | 'b' => some '\x08'
  | 'f' => some '\x0c'
  | 'n' => some '\n'
  | 'r' => some '\r'
  | 't' => some '\t'
  | _ => none

/-- The rest of a text after its opening quote; `read` holds what came before, last character
first. -/
def readText (read : List Char) : Nat → List Char → Except Fault (String × List Char)
  | 0, _ => .error .malformed
  | _, [] => .error .malformed
  | _, '"' :: rest => .ok (String.ofList read.reverse, rest)
  | fuel + 1, '\\' :: 'u' :: rest =>
    match readEscapedUnit rest with
    | some (c, rest) => readText (c :: read) fuel rest
    | none => .error .malformed
  | fuel + 1, '\\' :: c :: rest =>
    match escapeChar? c with
    | some c => readText (c :: read) fuel rest
    | none => .error .malformed
  | fuel + 1, c :: rest =>
    if c = '\\' || c.toNat < 32 then .error .malformed else readText (c :: read) fuel rest

/-- The digits at the front. -/
def spanDigits (s : List Char) : List Char × List Char := s.span Char.isDigit

/-- A fraction: a point and at least one digit. Without one, nothing is read. -/
def spanFraction : List Char → List Char × List Char
  | '.' :: rest =>
    let (ds, rest') := spanDigits rest
    if ds.isEmpty then ([], '.' :: rest) else (ds, rest')
  | s => ([], s)

/-- An exponent: its mark, a sign and at least one digit. Without one, nothing is read. -/
def spanExponent (s : List Char) : Option Int × List Char :=
  match s with
  | e :: rest =>
    if e = 'e' || e = 'E' then
      let (negative, body) := Text.splitSign rest
      let (ds, rest') := spanDigits body
      if ds.isEmpty then (none, s)
      else (some (if negative then -(Text.ofDigits ds : Int) else Text.ofDigits ds), rest')
    else (none, s)
  | [] => (none, s)

/-- A number without its sign. No digit follows a leading zero. -/
def readNumber (negative : Bool) (s : List Char) : Except Fault (Json × List Char) :=
  let (whole, rest) := match s with
    | '0' :: rest => (['0'], rest)
    | s => spanDigits s
  if whole.isEmpty then .error .malformed
  else
    let (fraction, rest) := spanFraction rest
    let (exponent, rest) := spanExponent rest
    if fraction.isEmpty && exponent.isNone then
      if Text.digitLimit < whole.length then .error (.numberTooLong whole.length)
      else
        let n : Int := Text.ofDigits whole
        .ok (.int (if negative then -n else n), rest)
    else
      let e : Int := exponent.getD 0 - fraction.length
      .ok (.real (Binary64.ofDecimal negative (Text.ofDigits (whole ++ fraction)) e), rest)

/-- The words that stand for values. -/
def words : List (List Char × Json) :=
  [("null".toList, null), ("true".toList, bool true), ("false".toList, bool false),
   ("NaN".toList, real Binary64.nan), ("Infinity".toList, real (Binary64.infinity false)),
   ("-Infinity".toList, real (Binary64.infinity true))]

/-- A word or a number. -/
def readAtom (s : List Char) : Except Fault (Json × List Char) :=
  match words.findSome? fun w => (w.1.isPrefixOf? s).map fun rest => (w.2, rest) with
  | some found => .ok found
  | none =>
    match s with
    | '-' :: rest => readNumber true rest
    | s => readNumber false s

mutual

/-- A value at the front of a text, in which lists and objects may be nested `levels` deep. -/
def readValue (levels : Nat) : Nat → List Char → Except Fault (Json × List Char)
  | 0, _ => .error .malformed
  | fuel + 1, s =>
    match s with
    | '"' :: rest => do
      let (text, rest) ← readText [] (rest.length + 1) rest
      return (.str text, rest)
    | '[' :: rest =>
      if levels = 0 then .error (.tooDeep false)
      else match skipGap rest with
        | ']' :: rest => .ok (.arr [], rest)
        | rest => readItems (levels - 1) [] fuel rest
    | '{' :: rest =>
      if levels = 0 then .error (.tooDeep true)
      else match skipGap rest with
        | '}' :: rest => .ok (.obj [], rest)
        | rest => readFields (levels - 1) [] fuel rest
    | s => readAtom s

/-- The items of a list up to its closing bracket; `read` holds those before, last one first. -/
def readItems (levels : Nat) (read : List Json) :
    Nat → List Char → Except Fault (Json × List Char)
  | 0, _ => .error .malformed
  | fuel + 1, s => do
    let (item, rest) ← readValue levels fuel s
    match skipGap rest with
    | ',' :: rest => readItems levels (item :: read) fuel (skipGap rest)
    | ']' :: rest => return (.arr (item :: read).reverse, rest)
    | _ => .error .malformed

/-- The fields of an object up to its closing brace; `read` holds those before. -/
def readFields (levels : Nat) (read : List (String × Json)) :
    Nat → List Char → Except Fault (Json × List Char)
  | 0, _ => .error .malformed
  | fuel + 1, s =>
    match s with
    | '"' :: rest => do
      let (key, rest) ← readText [] (rest.length + 1) rest
      match skipGap rest with
      | ':' :: rest =>
        let (value, rest) ← readValue levels fuel (skipGap rest)
        match skipGap rest with
        | ',' :: rest => readFields levels (putField read key value) fuel (skipGap rest)
        | '}' :: rest => return (.obj (putField read key value), rest)
        | _ => .error .malformed
      | _ => .error .malformed
    | _ => .error .malformed

end

/-- The document that a text holds, in which lists and objects may be nested `deepest` deep. Every
step uses a character or ends, so twice the length is fuel enough. -/
def read (deepest : Nat) (s : String) : Except Fault Json := do
  let (value, rest) ← readValue deepest (2 * s.length + 2) (skipGap s.toList)
  if (skipGap rest).isEmpty then return value else .error .malformed

end PltKeeper.Json
