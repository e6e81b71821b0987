/-!
How alike two texts are, as far as it takes to guess which of some words was meant. The likeness of
two texts is the share of their characters that they have in common: those of their longest common
block, and by the same rule those that the parts before it and the parts behind it have in common.
-/

namespace PltKeeper.Text

/-- A block that two texts have in common: where it starts in each, and its length. -/
structure CommonBlock where
  first : Nat
  second : Nat
  length : Nat
  deriving DecidableEq, Repr

/-- How many characters two texts have in common at their fronts. -/
def commonFront : List Char → List Char → Nat
  | a :: as, b :: bs => if a = b then commonFront as bs + 1 else 0
  | _, _ => 0

/-- The longer of a block and those that start at `i` in the first text, which is `s` from there on,
and at `j` or later in the second, which is the last argument from there on. -/
def longestAt (s : List Char) (i j : Nat) (best : CommonBlock) : List Char → CommonBlock
  | [] => best
  | b :: rest =>
    let n := commonFront s (b :: rest)
    longestAt s i (j + 1) (if best.length < n then ⟨i, j, n⟩ else best) rest

/-- The longer of a block and those that start at `i` or later in the first text, which is the last
argument from there on. -/
def longestFrom (t : List Char) (i : Nat) (best : CommonBlock) : List Char → CommonBlock
  | [] => best
  | a :: rest => longestFrom t (i + 1) (longestAt (a :: rest) i 0 best t) rest

/-- The longest block that two texts have in common. Of blocks of one length, that which comes first
in the first text counts, and among those that which comes first in the second. -/
def longestCommon (s t : List Char) : CommonBlock := longestFrom t 0 ⟨0, 0, 0⟩ s

/-- How many characters two texts have in common in their longest common block and on either side
of it. A block lies within the first text, so each side is shorter than it. -/
def common (s t : List Char) : Nat :=
  let block := longestCommon s t
  if _inside : 0 < block.length ∧ block.first + block.length ≤ s.length then
    common (s.take block.first) (t.take block.second) + block.length +
      common (s.drop (block.first + block.length)) (t.drop (block.second + block.length))
  else 0
termination_by s.length
decreasing_by
  all_goals simp only [List.length_take, List.length_drop, block] at *
  all_goals omega

/-- A word that may have been meant, with its likeness to what was written as a fraction. -/
structure Likeness where
  word : String
  shared : Nat
  whole : Nat
  deriving DecidableEq, Repr

/-- The likeness of a word to a text. Both have a part in what is shared. -/
def Likeness.of (text word : String) : Likeness :=
  ⟨word, 2 * common word.toList text.toList, word.length + text.length⟩

/-- Whether a word is alike enough to be meant: at least three fifths are shared. -/
def Likeness.isClose (l : Likeness) : Bool := 3 * l.whole ≤ 5 * l.shared

/-- Whether a likeness comes before another: the closer one, and of two equal ones that of the word
which is later in the alphabet. -/
def Likeness.before (l m : Likeness) : Bool :=
  m.shared * l.whole < l.shared * m.whole ||
    (m.shared * l.whole == l.shared * m.whole && decide (m.word ≤ l.word))

/-- The words that may have been meant by a text: the three closest ones at most, in alphabetical
order. -/
def closest (text : String) (words : List String) : List String :=
  let close := ((words.map (Likeness.of text)).filter Likeness.isClose).mergeSort Likeness.before
  ((close.take 3).map Likeness.word).mergeSort fun a b => decide (a ≤ b)

end PltKeeper.Text
