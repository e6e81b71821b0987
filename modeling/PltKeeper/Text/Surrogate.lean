import PltKeeper.Text.Utf8

/-!
Halves of surrogate pairs. A code unit from D800 to DFFF stands for no character by itself, and yet a
text may hold one: an escape in a document spells it, and a byte in a name that is no UTF-8 is read as
one. Such a half is kept as a character of private use, one for each unit; wherever a text leaves the
program it is said what becomes of its halves. Most encodings have none.
-/

namespace PltKeeper.Text

/-- The first of the characters that halves are kept as. -/
def firstHalf : Nat := 0x10f000

/-- The half that a code unit is kept as. -/
def half (unit : Nat) : Char := Char.ofNat (firstHalf + (unit - 0xd800))

/-- Whether a character stands for a half. -/
def isHalf (c : Char) : Bool := firstHalf ≤ c.toNat && c.toNat < firstHalf + 0x800

/-- The code unit of a half. -/
def unitOf (c : Char) : Nat := c.toNat - firstHalf + 0xd800

/-- Whether a half stands for a byte of a name that is no UTF-8. Given back to the system it is that
byte again. -/
def isStrayByte (c : Char) : Bool := isHalf c && 0xdc80 ≤ unitOf c && unitOf c ≤ 0xdcff

/-- Whether no name that the system is given may hold the character. -/
def isUnusable (c : Char) : Bool := c = '\x00' || (isHalf c && !isStrayByte c)

/-- Why a text cannot be encoded: where the first half at fault stands, and its unit and those of the
halves right behind it. -/
structure EncodeFault where
  start : Nat
  units : List Nat
  deriving DecidableEq, Repr

/-- The first fault in a text, seen from an offset; `spoils` says which characters are at fault. -/
def faultFrom (spoils : Char → Bool) (start : Nat) : List Char → Option EncodeFault
  | [] => none
  | c :: rest =>
    if spoils c then some ⟨start, ((c :: rest).takeWhile isHalf).map unitOf⟩
    else faultFrom spoils (start + 1) rest

/-- The first fault in a text. -/
def fault? (spoils : Char → Bool) (s : String) : Option EncodeFault := faultFrom spoils 0 s.toList

/-- The bytes of texts that are written one after the other. The first one with a half ends them. -/
def encodeAll : List String → List UInt8 × Option EncodeFault
  | [] => ([], none)
  | s :: rest =>
    match fault? isHalf s with
    | some fault => ([], some fault)
    | none => (Utf8.encode s ++ (encodeAll rest).1, (encodeAll rest).2)

end PltKeeper.Text
