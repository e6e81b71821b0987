import PltKeeper.Decimal.Shortest

/-!
Binary numbers of 64 bits by their bit pattern, so that equality is decidable, with the text in
which they are written and the reading of decimals into them.
-/

namespace PltKeeper

/-- A binary number of 64 bits. -/
structure Binary64 where
  /-- Sign, exponent and fraction. -/
  bits : UInt64
  deriving DecidableEq, Repr, Inhabited

namespace Binary64

/-- The number that a machine float holds. -/
def ofFloat (x : Float) : Binary64 := ⟨x.toBits⟩

/-- The machine float. -/
def toFloat (x : Binary64) : Float := Float.ofBits x.bits

/-- The sign bit. -/
def isNegative (x : Binary64) : Bool := x.bits.toNat / 0x8000000000000000 = 1

/-- The exponent field. -/
def exponentField (x : Binary64) : Nat := x.bits.toNat / Decimal.leastNormal % 0x800

/-- The fraction field. -/
def fractionField (x : Binary64) : Nat := x.bits.toNat % Decimal.leastNormal

/-- What a bit pattern stands for, the sign apart. -/
inductive Magnitude
  | nan
  | infinite
  /-- `m · 2 ^ q`. -/
  | finite (m : Nat) (q : Int)
  deriving DecidableEq, Repr

/-- The magnitude of a number. -/
def magnitude (x : Binary64) : Magnitude :=
  if x.exponentField = 2047 then if x.fractionField = 0 then .infinite else .nan
  else if x.exponentField = 0 then .finite x.fractionField (-1074)
  else .finite (Decimal.leastNormal + x.fractionField) (x.exponentField - 1075)

/-- The whole part, rounded toward zero; there is none of an infinity or of what is no number. -/
def truncate? (x : Binary64) : Option Int :=
  match x.magnitude with
  | .finite m q =>
    let whole := Decimal.Ratio.scaled m 2 q
    let n : Int := whole.num / whole.den
    some (if x.isNegative then -n else n)
  | _ => none

/-- How a decimal is laid out. -/
structure Layout where
  /-- Exponents below this one are written out, as is the mark before them. -/
  leastPositional : Int
  /-- The first exponent too large to be written positionally. -/
  firstScientific : Int
  /-- The least number of digits of a written exponent. -/
  exponentWidth : Nat
  /-- What stands for an infinity. -/
  infinity : String
  /-- What stands for no number. -/
  noNumber : String

/-- Numbers from `10 ^ -4` up to `10 ^ 16` are written positionally and keep a fraction; others get
an exponent with a sign and at least two digits. -/
def plain : Layout := ⟨-4, 16, 2, "inf", "nan"⟩

/-- As `plain`, with the spellings that data documents use. -/
def document : Layout := { plain with infinity := "Infinity", noNumber := "NaN" }

/-- A number's digits, padded with zeros at the front. -/
def padded (width n : Nat) : List Char :=
  let digits := Nat.toDigits 10 n
  List.replicate (width - digits.length) '0' ++ digits

/-- The digits without the zeros at their end. -/
def trimZeros (ds : List Char) : List Char := (ds.reverse.dropWhile (· = '0')).reverse

/-- Lays out digits whose first one counts `10 ^ top`. -/
def Layout.write (l : Layout) (ds : List Char) (top : Int) : List Char :=
  if top < l.leastPositional || l.firstScientific ≤ top then
    let rest := ds.drop 1
    ds.take 1 ++ (if rest.isEmpty then [] else '.' :: rest) ++
      ['e', if top < 0 then '-' else '+'] ++ padded l.exponentWidth top.natAbs
  else if top < 0 then
    '0' :: '.' :: List.replicate (top.natAbs - 1) '0' ++ ds
  else
    let n := top.toNat + 1
    let whole := ds.take n ++ List.replicate (n - ds.length) '0'
    let rest := ds.drop n
    whole ++ '.' :: (if rest.isEmpty then ['0'] else rest)

/-- The shortest text that reads back as the number. -/
def text (l : Layout) (x : Binary64) : String :=
  match x.magnitude with
  | .nan => l.noNumber
  | .infinite => (if x.isNegative then "-" else "") ++ l.infinity
  | .finite 0 _ => if x.isNegative then "-0.0" else "0.0"
  | .finite m q =>
    let d := Decimal.shortest m q (x.exponentField ≤ 1)
    let ds := Nat.toDigits 10 d.digits
    let body := l.write (trimZeros ds) (d.exponent + ds.length - 1)
    String.ofList (if x.isNegative then '-' :: body else body)

/-- The number nearest to `m · 10 ^ e`. Decimals beyond every finite number, and those below half of
the least positive one, need no exact arithmetic. -/
def ofDecimal (negative : Bool) (m : Nat) (e : Int) : Binary64 :=
  let size : Int := (Nat.toDigits 10 m).length + e
  let x : Float :=
    if m = 0 || size < -330 then 0.0
    else if 400 < size then 1.0 / 0.0
    else Float.ofScientific m (decide (e < 0)) e.natAbs
  ofFloat (if negative then -x else x)

/-- The infinities. -/
def infinity (negative : Bool) : Binary64 :=
  ⟨if negative then 0xfff0000000000000 else 0x7ff0000000000000⟩

/-- What stands for no number. -/
def nan : Binary64 := ⟨0x7ff8000000000000⟩

end Binary64

end PltKeeper
