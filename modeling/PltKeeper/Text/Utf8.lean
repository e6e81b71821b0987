/-!
Reading bytes as UTF-8. `next` reads one character or says how many bytes are at fault and why;
`decode` stops at the first fault and `decodeLossy` puts the replacement character in its place.
-/

namespace PltKeeper.Text.Utf8

/-- Why bytes are not UTF-8. -/
inductive Reason
  /-- The byte begins no character. -/
  | badStart
  /-- A byte inside a character does not continue it. -/
  | badContinuation
  /-- The text ends inside a character. -/
  | cutShort
  deriving DecidableEq, Repr

/-- The reason in words. -/
def Reason.text : Reason → String
  | .badStart => "invalid start byte"
  | .badContinuation => "invalid continuation byte"
  | .cutShort => "unexpected end of data"

/-- Bytes that are not UTF-8: where they start, what they are, and why. -/
structure Fault where
  /-- Offset of the first byte at fault. -/
  start : Nat
  /-- The bytes at fault; there is at least one. -/
  bytes : List UInt8
  /-- What is wrong with them. -/
  reason : Reason
  deriving DecidableEq, Repr

/-- A byte that continues a character. -/
def isContinuation (b : UInt8) : Bool := 0x80 ≤ b && b ≤ 0xbf

/-- Whether `second` may follow `first`: some second bytes would write a character too long, name a
surrogate or exceed the last code point. -/
def mayFollow (first second : UInt8) : Bool :=
  isContinuation second &&
    (if first = 0xe0 then 0xa0 ≤ second
     else if first = 0xed then second ≤ 0x9f
     else if first = 0xf0 then 0x90 ≤ second
     else if first = 0xf4 then second ≤ 0x8f
     else true)

/-- How many bytes continue a character that begins with this one. -/
def continuations? (first : UInt8) : Option Nat :=
  if first < 0x80 then some 0
  else if 0xc2 ≤ first && first ≤ 0xdf then some 1
  else if 0xe0 ≤ first && first ≤ 0xef then some 2
  else if 0xf0 ≤ first && first ≤ 0xf4 then some 3
  else none

/-- The value bits of a first byte that `more` bytes continue. -/
def leadBits (first : UInt8) (more : Nat) : Nat :=
  match more with
  | 0 => first.toNat
  | 1 => first.toNat % 0x20
  | 2 => first.toNat % 0x10
  | _ => first.toNat % 0x08

/-- The continuation bytes at the front of `rest`, at most `more` of them. -/
def takeContinuations (first : UInt8) (more : Nat) (rest : List UInt8) : List UInt8 :=
  match more, rest with
  | more + 1, second :: rest =>
    if mayFollow first second then second :: (rest.take more).takeWhile isContinuation else []
  | _, _ => []

/-- What the front of a byte sequence is: a character of `size` bytes, or `size` bytes at fault. -/
inductive Front
  | char (c : Char) (size : Nat)
  | fault (reason : Reason) (size : Nat)
  deriving Repr

/-- Reads the front of a byte sequence that begins with `first`. -/
def front (first : UInt8) (rest : List UInt8) : Front :=
  match continuations? first with
  | none => .fault .badStart 1
  | some more =>
    let tail := takeContinuations first more rest
    if tail.length = more then
      .char (Char.ofNat (tail.foldl (fun n b => n * 64 + b.toNat % 64) (leadBits first more)))
        (more + 1)
    else if tail.length = rest.length then .fault .cutShort (tail.length + 1)
    else .fault .badContinuation (tail.length + 1)

/-- The characters read so far, last one first, or the first fault. -/
def decodeFrom (start : Nat) (read : List Char) : Nat → List UInt8 → Except Fault (List Char)
  | _, [] => .ok read.reverse
  | 0, _ :: _ => .ok read.reverse
  | fuel + 1, first :: rest =>
    match front first rest with
    | .char c size => decodeFrom (start + size) (c :: read) fuel (rest.drop (size - 1))
    | .fault reason size => .error ⟨start, (first :: rest).take size, reason⟩

/-- The text that the bytes spell, or the first fault. Every step uses a byte, so the number of
bytes is fuel enough. -/
def decode (bytes : List UInt8) : Except Fault String :=
  (decodeFrom 0 [] bytes.length bytes).map String.ofList

/-- As `decodeFrom`, with the replacement character for every fault. -/
def decodeLossyFrom (read : List Char) : Nat → List UInt8 → List Char
  | _, [] => read.reverse
  | 0, _ :: _ => read.reverse
  | fuel + 1, first :: rest =>
    match front first rest with
    | .char c size => decodeLossyFrom (c :: read) fuel (rest.drop (size - 1))
    | .fault _ size => decodeLossyFrom ('\ufffd' :: read) fuel (rest.drop (size - 1))

/-- The text that the bytes spell, with a replacement character where they spell none. -/
def decodeLossy (bytes : List UInt8) : String :=
  String.ofList (decodeLossyFrom [] bytes.length bytes)

/-- The bytes of a text. -/
def encode (s : String) : List UInt8 := s.toList.flatMap String.utf8EncodeChar

end PltKeeper.Text.Utf8
