/-!
Sets of code points as inclusive ranges, the form in which character properties are tabulated.
-/

namespace PltKeeper.Text

/-- Inclusive ranges of code points. -/
abbrev CodeRanges := List (Nat × Nat)

/-- Whether the character's code point lies in one of the ranges. -/
def CodeRanges.covers (ranges : CodeRanges) (c : Char) : Bool :=
  ranges.any fun range => range.1 ≤ c.toNat && c.toNat ≤ range.2

end PltKeeper.Text
