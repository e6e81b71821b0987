import PltKeeper.Text.CodeRange

/-!
White space and line boundaries. `strip` removes blank characters at both ends and `lines` cuts a
text at its line boundaries; a carriage return and the line feed after it are one boundary.
-/

namespace PltKeeper.Text

/-- The blank characters: the ASCII controls that move the print position or separate records, the
space, and the spaces and separators of the general punctuation block. -/
def blankRanges : CodeRanges :=
  [(0x9, 0xd), (0x1c, 0x20), (0x85, 0x85), (0xa0, 0xa0), (0x1680, 0x1680), (0x2000, 0x200a),
   (0x2028, 0x2029), (0x202f, 0x202f), (0x205f, 0x205f), (0x3000, 0x3000)]

/-- White space. -/
def isBlank (c : Char) : Bool := blankRanges.covers c

/-- The characters that end a line. -/
def boundaryRanges : CodeRanges :=
  [(0xa, 0xd), (0x1c, 0x1e), (0x85, 0x85), (0x2028, 0x2029)]

/-- Ends a line. -/
def isBoundary (c : Char) : Bool := boundaryRanges.covers c

/-- The list without its longest ending of elements that satisfy `p`. -/
def dropEndWhile {α : Type} (p : α → Bool) (xs : List α) : List α :=
  (xs.reverse.dropWhile p).reverse

/-- Without white space at the front. -/
def stripFront (s : List Char) : List Char := s.dropWhile isBlank

/-- Without white space at the back. -/
def stripBack (s : List Char) : List Char := dropEndWhile isBlank s

/-- Without white space at either end. -/
def strip (s : List Char) : List Char := stripBack (stripFront s)

/-- The lines of a text, `line` being what has been read of the current one, last character first.
A text that ends with a boundary has no further, empty line. -/
def linesFrom (line : List Char) : List Char → List (List Char)
  | [] => if line.isEmpty then [] else [line.reverse]
  | '\r' :: '\n' :: rest => line.reverse :: linesFrom [] rest
  | c :: rest =>
    if isBoundary c then line.reverse :: linesFrom [] rest else linesFrom (c :: line) rest

/-- The lines of a text without their boundaries. -/
def lines (s : List Char) : List (List Char) := linesFrom [] s

end PltKeeper.Text
