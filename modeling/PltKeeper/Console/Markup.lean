import PltKeeper.Console.Literal
import PltKeeper.Console.Screen
import PltKeeper.Console.Style

/-!
Markup in console messages. A tag stands between square brackets and begins with a lower case letter
or one of `#`, `/` and `@`; it is taken out of the text. A tag that begins with a slash closes the
innermost open tag of its name, or the innermost one if it names none, and is an error if there is
no such tag. What follows an equals sign in a tag is its parameter; that of a handler, a tag that
begins with `@`, is checked when the tag is closed. Backslashes before a tag escape it in pairs of
themselves.
-/

namespace PltKeeper.Console

/-- A part of a marked-up text. -/
inductive Part
  /-- Text to show. -/
  | plain (text : List Char)
  /-- A tag: where it starts, and what stands between its brackets. -/
  | tag (start : Nat) (body : List Char)
  deriving DecidableEq, Repr

/-- Whether a tag may begin with the character. -/
def beginsTag (c : Char) : Bool :=
  ('a' ≤ c && c ≤ 'z') || c = '#' || c = '/' || c = '@'

/-- The body of a tag up to its closing bracket, and what follows. No bracket opens within it. -/
def tagRest : List Char → Option (List Char × List Char)
  | [] => none
  | ']' :: rest => some ([], rest)
  | '[' :: _ => none
  | c :: rest => (tagRest rest).map fun (body, after) => (c :: body, after)

/-- The body of the tag that a text begins with, and what follows. -/
def tag? : List Char → Option (List Char × List Char)
  | '[' :: c :: rest =>
    if beginsTag c then (tagRest rest).map fun (body, after) => (c :: body, after) else none
  | _ => none

/-- The text before a tag as a part, if there is any; it comes last character first. -/
def flush (text : List Char) : List Part := if text.isEmpty then [] else [.plain text.reverse]

/-- The parts of a text from a position on; `before` is the text since the last tag, last character
first. -/
def partsFrom (before : List Char) (position : Nat) : Nat → List Char → List Part
  | 0, _ => flush before
  | _, [] => flush before
  | fuel + 1, c :: rest =>
    let (slashes, afterSlashes) := (c :: rest).span (· = '\\')
    match tag? afterSlashes with
    | some (body, after) =>
      let n := slashes.length
      let next := position + n + body.length + 2
      let pairs := List.replicate (n / 2) '\\'
      let shown := if pairs.isEmpty then [] else [Part.plain pairs]
      let last := if n % 2 = 1 then Part.plain ('[' :: body ++ [']']) else .tag (position + n) body
      flush before ++ shown ++ last :: partsFrom [] next fuel after
    | none => partsFrom (c :: before) (position + 1) fuel rest

/-- The parts of a marked-up text. Every step uses a character. -/
def parts (s : List Char) : List Part := partsFrom [] 0 s.length s

/-- The characters that are taken out of everything printed: bell, backspace, vertical tab, form
feed and carriage return. -/
def isDropped (c : Char) : Bool :=
  c.toNat = 7 || c.toNat = 8 || c.toNat = 11 || c.toNat = 12 || c.toNat = 13

/-- A text without the characters that are not printed. -/
def sanitized (s : List Char) : List Char := s.filter (!isDropped ·)

/-- A text in which a bracket loses the backslash before it. -/
def unescaped : List Char → List Char
  | '\\' :: '[' :: rest => '[' :: unescaped rest
  | c :: rest => c :: unescaped rest
  | [] => []

/-- An open tag. -/
structure OpenTag where
  /-- How many characters were shown before it. -/
  start : Nat
  /-- Its canonical name. -/
  name : String
  /-- Its parameter. -/
  parameter : Option (List Char)
  deriving DecidableEq, Repr

/-- A part of the shown text, between two offsets, with the style that is applied to it. -/
structure Span where
  start : Nat
  stop : Nat
  style : List Char
  deriving DecidableEq, Repr

/-- What has been rendered of a marked-up text. -/
structure Rendering where
  /-- The text that is shown. -/
  shown : List Char := []
  /-- The tags that are open, innermost first. -/
  opened : List OpenTag := []
  /-- The spans of the tags that were closed, last one first. -/
  spans : List Span := []
  deriving Repr

/-- The span from an open tag to an offset. -/
def OpenTag.span (tag : OpenTag) (stop : Nat) : Span where
  start := tag.start
  stop := stop
  style := tag.name.toList ++ (tag.parameter.map (' ' :: ·)).getD []

/-- The name of a tag and its parameter. -/
def splitTag (body : List Char) : List Char × Option (List Char) :=
  let name := body.takeWhile (· ≠ '=')
  (name, if body.contains '=' then some (body.drop (name.length + 1)) else none)

/-- The arguments in the parameter of a handler. The name of a function may stand before them, and
may stand alone; any other parameter is an argument itself. -/
def handlerArguments (parameter : List Char) : List Char :=
  match parameter.dropWhile fun c => Text.isWord c || c = '.' with
  | [] => "()".toList
  | rest =>
    if rest.head? = some '(' && rest.getLast? = some ')' && !rest.contains '\n' then rest
    else parameter

/-- Checks the parameter of a tag that is closed. The arguments of a handler must be literals. -/
def OpenTag.check (tag : OpenTag) : Except Failure Unit :=
  match tag.parameter with
  | some (c :: rest) =>
    let parameter := c :: rest
    let arguments := handlerArguments (Text.strip parameter)
    if tag.name.toList.head? ≠ some '@' || Literal.isLiteral arguments then .ok ()
    else .error (.badMarkup ("error parsing " ++ Text.quoted (String.ofList arguments) ++ " in " ++
      Text.quoted (String.ofList parameter) ++ "; invalid syntax"))
  | _ => .ok ()

/-- Takes the innermost tag of a name out of the open tags. -/
def takeOpen? (name : String) : List OpenTag → Option (OpenTag × List OpenTag)
  | [] => none
  | tag :: rest =>
    if tag.name = name then some (tag, rest)
    else (takeOpen? name rest).map fun (found, others) => (found, tag :: others)

/-- The tag that a closing tag closes, and those that stay open. The closing tag has the name
behind its slash, stands at `start` and has `body` between its brackets. -/
def closing (opened : List OpenTag) (name : List Char) (start : Nat) (body : List Char) :
    Except Failure (OpenTag × List OpenTag) := do
  if name.isEmpty then
    match opened with
    | tag :: rest => return (tag, rest)
    | [] => .error (.badMarkup s!"closing tag '[/]' at position {start} has nothing to close")
  else
    match takeOpen? (← Style.canonicalName name) opened with
    | some found => return found
    | none => .error (.badMarkup ("closing tag '[" ++ String.ofList body ++
        s!"]' at position {start} doesn't match any open tag"))

namespace Rendering

/-- Goes on with a tag. -/
def applyTag (r : Rendering) (start : Nat) (body : List Char) : Except Failure Rendering :=
  match splitTag body with
  | ('/' :: name, _) => do
    let (tag, opened) ← closing r.opened (Text.strip name) start body
    tag.check
    return { r with opened := opened, spans := tag.span r.shown.length :: r.spans }
  | (name, parameter) => do
    let name ← Style.canonicalName name
    return { r with opened := ⟨r.shown.length, name, parameter⟩ :: r.opened }

/-- Goes on with a part of a text. -/
def step (screen : Screen) (r : Rendering) : Part → Except Failure Rendering
  | .plain text => .ok { r with shown := r.shown ++ sanitized (screen.shown (unescaped text)) }
  | .tag start body => r.applyTag start body

/-- All spans, in the order in which they start; of those that start together the one that ends
last comes first. Tags that were never closed reach to the end. -/
def allSpans (r : Rendering) : List Span :=
  ((r.opened.reverse.map fun tag => tag.span r.shown.length) ++ r.spans).mergeSort
    fun a b => a.start ≤ b.start

/-- Whether a span still holds text once the text is cut into lines, if it is. -/
def survives (r : Rendering) (isCut : Bool) (span : Span) : Bool :=
  !isCut || ((r.shown.drop span.start).take (span.stop - span.start)).any (· ≠ '\n')

/-- Checks that the styles of a text that is cut into lines, or is not, can be applied. -/
def checkStyles (r : Rendering) (isCut : Bool) : Except Failure Unit :=
  (r.allSpans.filter (r.survives isCut)).forM fun span => Style.checkApplied span.style

end Rendering

/-- The rendering of a marked-up text. -/
def render (screen : Screen) (s : List Char) : Except Failure Rendering :=
  (parts s).foldlM (Rendering.step screen) {}

end PltKeeper.Console
