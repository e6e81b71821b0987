/-!
The shortest decimal that reads back as a given binary number. The number is `m · 2 ^ q`; the reals
that round to it form an interval around it, and of the decimals in that interval those with the
fewest digits are taken, of these the nearest, of two equally near the even one.
-/

namespace PltKeeper.Decimal

/-- A decimal `digits · 10 ^ exponent`. -/
structure Scaled where
  /-- The digits, as one number. -/
  digits : Nat
  /-- The power of ten that the last digit counts. -/
  exponent : Int
  deriving DecidableEq, Repr

/-- A positive fraction. -/
structure Ratio where
  num : Nat
  den : Nat
  deriving DecidableEq, Repr

/-- The significands of normal numbers start here: `2 ^ 52`. -/
def leastNormal : Nat := 0x10000000000000

/-- `n · base ^ e` as a fraction. -/
def Ratio.scaled (n base : Nat) (e : Int) : Ratio :=
  match e with
  | .ofNat e => ⟨n * Nat.pow base e, 1⟩
  | .negSucc e => ⟨n, Nat.pow base (e + 1)⟩

/-- Compares two fractions by cross multiplication. -/
def Ratio.le (a b : Ratio) : Bool := a.num * b.den ≤ b.num * a.den

/-- Compares two fractions strictly. -/
def Ratio.lt (a b : Ratio) : Bool := a.num * b.den < b.num * a.den

/-- The reals that round to a number: the fractions between `lo` and `hi`, with the ends exactly
when `closed` holds. -/
structure Interval where
  lo : Ratio
  hi : Ratio
  closed : Bool

/-- Whether a fraction lies in the interval. -/
def Interval.holds (i : Interval) (r : Ratio) : Bool :=
  if i.closed then i.lo.le r && r.le i.hi else i.lo.lt r && r.lt i.hi

/-- The reals that round to `m · 2 ^ q`. The gap below a power of two is half the gap above it,
unless the number is at the lower end of the exponents (`lowest`). -/
def roundingInterval (m : Nat) (q : Int) (lowest : Bool) : Interval where
  lo := Ratio.scaled (4 * m - if m = leastNormal && !lowest then 1 else 2) 2 (q - 2)
  hi := Ratio.scaled (4 * m + 2) 2 (q - 2)
  closed := m % 2 = 0

/-- The least `e` with `r < 10 ^ e`, for positive `r`, sought upwards from `e`. -/
def magnitudeFrom (r : Ratio) (e : Int) : Nat → Int
  | 0 => e
  | fuel + 1 => if r.lt (Ratio.scaled 1 10 e) then e else magnitudeFrom r (e + 1) fuel

/-- The least `e` with `r < 10 ^ e`; binary numbers of 64 bits lie between `10 ^ -330` and
`10 ^ 310`. -/
def magnitude (r : Ratio) : Int := magnitudeFrom r (-330) 640

/-- The decimal with `n` digits, below or above the value, that lies in the interval and is nearer
to the value. -/
def candidate? (value : Ratio) (i : Interval) (top : Int) (n : Nat) : Option Scaled :=
  let e := top - n
  let step := Ratio.scaled 1 10 e
  let below := value.num * step.den / (value.den * step.num)
  let rest := value.num * step.den % (value.den * step.num)
  let fits (d : Nat) : Bool := d ≠ 0 && i.holds (Ratio.scaled d 10 e)
  let upper := 2 * rest > value.den * step.num ||
    (2 * rest = value.den * step.num && below % 2 = 1)
  match fits below, fits (below + 1) with
  | true, true => some ⟨if upper then below + 1 else below, e⟩
  | true, false => some ⟨below, e⟩
  | false, true => some ⟨below + 1, e⟩
  | false, false => none

/-- The shortest decimal that reads back as `m · 2 ^ q`, for positive `m`. Seventeen digits always
suffice for 64 bits. -/
def shortest (m : Nat) (q : Int) (lowest : Bool) : Scaled :=
  let value := Ratio.scaled m 2 q
  let top := magnitude value
  ((List.range 17).findSome? fun n =>
    candidate? value (roundingInterval m q lowest) top (n + 1)).getD ⟨0, 0⟩

end PltKeeper.Decimal
