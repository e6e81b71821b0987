/-!
Paths as texts normalise them: an anchor and components, none of them empty or a single dot.
Nothing here looks at a file system; `..` is kept, since what it means depends on what is there.
-/

namespace PltKeeper

/-- Where a path starts. Exactly two leading slashes are kept apart from one. -/
inductive Anchor
  | relative
  | root
  | doubleRoot
  deriving DecidableEq, Repr, Inhabited

/-- A path. -/
structure Path where
  /-- Where the path starts. -/
  anchor : Anchor
  /-- The components, outermost first. -/
  parts : List String
  deriving DecidableEq, Repr, Inhabited

namespace Path

/-- The components of a text: what stands between slashes, without empty ones and single dots. -/
def components (s : String) : List String :=
  ((s.toList.splitOn '/').map String.ofList).filter fun part => part ≠ "" && part ≠ "."

/-- The anchor of a text: three or more leading slashes count as one. -/
def anchorOf : List Char → Anchor
  | '/' :: '/' :: '/' :: _ => .root
  | '/' :: '/' :: _ => .doubleRoot
  | '/' :: _ => .root
  | _ => .relative

/-- The path that a text names. -/
def parse (s : String) : Path := ⟨anchorOf s.toList, components s⟩

/-- The slashes at the front of a path. -/
def Anchor.text : Anchor → String
  | .relative => ""
  | .root => "/"
  | .doubleRoot => "//"

/-- The text of a path; that of the empty relative path is a dot. -/
def text (p : Path) : String :=
  if p.anchor = .relative && p.parts.isEmpty then "."
  else Anchor.text p.anchor ++ "/".intercalate p.parts

instance : ToString Path := ⟨text⟩

/-- The empty relative path. -/
def here : Path := ⟨.relative, []⟩

/-- Whether the path starts at a root. -/
def isAbsolute (p : Path) : Bool := p.anchor ≠ .relative

/-- The second path seen from the first; an absolute one stands for itself. -/
def join (p q : Path) : Path :=
  if q.isAbsolute then q else ⟨p.anchor, p.parts ++ q.parts⟩

instance : Div Path := ⟨join⟩

/-- The path and one more text. -/
def child (p : Path) (s : String) : Path := p / parse s

/-- The path without its last component. -/
def parent (p : Path) : Path := { p with parts := p.parts.dropLast }

/-- The last component, empty if there is none. -/
def name (p : Path) : String := p.parts.getLast?.getD ""

/-- The ending of a name from its last dot on, unless that dot is its first or last character. -/
def suffixOf (name : String) : String :=
  let ending := name.toList.reverse.takeWhile (· ≠ '.')
  if ending.isEmpty || name.length ≤ ending.length + 1 then ""
  else String.ofList ('.' :: ending.reverse)

/-- Lexicographic order on components. -/
def componentsLe : List String → List String → Bool
  | [], _ => true
  | _ :: _, [] => false
  | a :: as, b :: bs => if a = b then componentsLe as bs else decide (a < b)

end Path

end PltKeeper
