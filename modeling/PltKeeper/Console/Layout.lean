import PltKeeper.Text.Blank
import PltKeeper.Text.CellWidth

/-!
Laying out text on a console of a given width. Lines are broken between words where they fit, words
that fit on no line are cut, and what then is still too long is cut off. A panel puts its lines into
a frame as wide as the longest of them.
-/

namespace PltKeeper.Console

open PltKeeper.Text

/-- A word with the blanks around it, and what follows. Only the first word of a text has blanks in
front. -/
def word? (s : List Char) : Option (List Char × List Char) :=
  let (front, rest) := s.span isBlank
  let (body, rest) := rest.span (!isBlank ·)
  let (back, rest) := rest.span isBlank
  if body.isEmpty then none else some (front ++ body ++ back, rest)

/-- The words of a text with the blanks around them. -/
def spacedWords : Nat → List Char → List (List Char)
  | 0, _ => []
  | fuel + 1, s =>
    match word? s with
    | some (word, rest) => word :: spacedWords fuel rest
    | none => []

/-- Cuts a word into pieces of at most `width` columns; `piece` is what has been read of the current
one and `used` its columns. -/
def chop (width : Nat) (piece : List Char) (used : Nat) : List Cluster → List (List Char)
  | [] => if used = 0 then [] else [piece]
  | g :: rest =>
    if width < used + g.width then piece :: chop width g.text g.width rest
    else chop width (piece ++ g.text) (used + g.width) rest

/-- Where pieces start that follow each other from an offset on. -/
def starts (offset : Nat) : List (List Char) → List Nat
  | [] => []
  | piece :: rest => offset :: starts (offset + piece.length) rest

/-- Where a text is broken: offsets in characters, from `start` on, for words that come after `used`
columns. -/
def breaks (width start used : Nat) : List (List Char) → List Nat
  | [] => []
  | word :: rest =>
    let needed := cellLength (stripBack word)
    let next := start + word.length
    if used + needed ≤ width then breaks width next (used + cellLength word) rest
    else if width < needed then
      let pieces := chop width [] 0 (clusters word)
      (starts start pieces).filter (· ≠ 0) ++
        breaks width next (cellLength (pieces.getLast?.getD [])) rest
    else if used ≠ 0 && start ≠ 0 then start :: breaks width next (cellLength word) rest
    else breaks width next used rest

/-- Cuts a text at offsets, counted from the front of what is left of it. -/
def cutAt (offset : Nat) (s : List Char) : List Nat → List (List Char)
  | [] => [s]
  | n :: rest => s.take (n - offset) :: cutAt n (s.drop (n - offset)) rest

/-- A line without the blanks at its end that lie beyond the width. -/
def trimEnd (width : Nat) (s : List Char) : List Char :=
  let blanks := s.length - (stripBack s).length
  s.take (s.length - min blanks (s.length - width))

/-- The lines into which a text is laid out. -/
def wrap (width : Nat) (s : List Char) : List (List Char) :=
  (s.splitOn '\n').flatMap fun line =>
    (cutAt 0 line (breaks width 0 0 (spacedWords line.length line))).map fun part =>
      fitted width (trimEnd width part)

/-- Lines as they are printed. -/
def printed (ls : List (List Char)) : String :=
  String.ofList (ls.flatMap fun line => line ++ ['\n'])

/-- A panel around a text. -/
def panel (width : Nat) (s : List Char) : List (List Char) :=
  let longest := ((lines s).map cellLength).foldl max 0
  let inner := min (longest + 2) (width - 2)
  let bar := List.replicate inner '─'
  let body := (wrap (inner - 2) s).map fun line =>
    ['│', ' '] ++ line ++ List.replicate (inner - 2 - cellLength line) ' ' ++ [' ', '│']
  ('╭' :: bar ++ ['╮']) :: body ++ ['╰' :: bar ++ ['╯']]

end PltKeeper.Console
