import PltKeeper.Analysis.Diagnostic
import PltKeeper.FileSet.Basic
import PltKeeper.Text.Numeral
import PltKeeper.Failure

/-!
Reading what dialyzer prints: warnings, one on a line with indented lines that continue it, and the
listing of a PLT, in which every file stands between double quotes.
-/

namespace PltKeeper.Dialyzer

open PltKeeper.Text

/-- What follows a file's name in a warning: line, perhaps column, and message, the numbers still as
text. -/
structure Position where
  line : List Char
  column : Option (List Char)
  message : List Char
  deriving DecidableEq, Repr

/-- The text after a colon and a space. -/
def afterColon? : List Char → Option (List Char)
  | ':' :: ' ' :: rest => some rest
  | _ => none

/-- Reads what follows the colon after a file's name. -/
def position? (s : List Char) : Option Position :=
  let (line, rest) := s.span isDigit
  if line.isEmpty then none
  else
    match afterColon? rest with
    | some message => some ⟨line, none, message⟩
    | none =>
      match rest with
      | ':' :: rest =>
        let (column, rest) := rest.span isDigit
        if column.isEmpty then none
        else (afterColon? rest).map fun message => ⟨line, some column, message⟩
      | _ => none

/-- Takes a warning apart at the first colon that a position follows; `file` is what stands before,
last character first. -/
def splitWarning (file : List Char) : List Char → Option (List Char × Position)
  | [] => none
  | c :: rest =>
    match if c = ':' then position? rest else none with
    | some p => some (file.reverse, p)
    | none => splitWarning (c :: file) rest

/-- A number in a warning. Digits in excess are a failure. -/
def number (s : List Char) : Except Failure Int :=
  (readInt s).mapError fun fault => .badValue (fault.message (String.ofList s))

/-- The warning on a line that does not continue another. One without a position is kept as it
is. -/
def warningOf (raw : List Char) : Except Failure Diagnostic := do
  match splitWarning [] (stripBack raw) with
  | none => return { file := "", line := 0, message := String.ofList (strip raw) }
  | some (file, p) =>
    let line ← number p.line
    let column ← p.column.mapM number
    return {
      file := String.ofList file
      line := line
      message := String.ofList p.message
      column := column }

/-- A warning with a line that continues it. -/
def continued (d : Diagnostic) (raw : List Char) : Diagnostic :=
  { d with message := d.message ++ " " ++ String.ofList (strip raw) }

/-- Whether a line is indented. -/
def isIndented (raw : List Char) : Bool :=
  match raw with
  | c :: _ => isBlank c
  | [] => false

/-- Adds a line to the warnings read so far, the last one first. -/
def addLine (read : List Diagnostic) (raw : List Char) : Except Failure (List Diagnostic) :=
  if (strip raw).isEmpty then .ok read
  else
    match isIndented raw, read with
    | true, last :: earlier => .ok (continued last raw :: earlier)
    | _, _ => do return (← warningOf raw) :: read

/-- The warnings in a text. -/
def warnings (output : String) : Except Failure (List Diagnostic) := do
  return (← (lines output.toList).foldlM addLine []).reverse

/-- The text up to a closing quote, escapes included, and what follows. A backslash escapes any
character but a line feed. -/
def quotedBody : List Char → Option (List Char × List Char)
  | [] => none
  | '"' :: rest => some ([], rest)
  | '\\' :: c :: rest =>
    if c = '\n' then none
    else (quotedBody rest).map fun (body, after) => ('\\' :: c :: body, after)
  | ['\\'] => none
  | c :: rest => (quotedBody rest).map fun (body, after) => (c :: body, after)

/-- What follows a closing quote is shorter than the text. -/
theorem length_after_quotedBody {s body after : List Char}
    (h : quotedBody s = some (body, after)) : after.length < s.length := by
  fun_induction quotedBody s generalizing body after with
  | case1 => simp at h
  | case2 => simp_all
  | case3 => simp at h
  | case4 c rest _ ih =>
    obtain ⟨⟨b, a⟩, found, e⟩ := Option.map_eq_some_iff.1 h
    have := ih found
    simp_all
    omega
  | case5 => simp at h
  | case6 c rest _ _ _ ih =>
    obtain ⟨⟨b, a⟩, found, e⟩ := Option.map_eq_some_iff.1 h
    have := ih found
    simp_all
    omega

/-- The texts between double quotes. A quote that no other one closes is passed over. -/
def quotedTexts : List Char → List (List Char)
  | [] => []
  | '"' :: rest =>
    match h : quotedBody rest with
    | some (body, after) =>
      have : after.length < rest.length := length_after_quotedBody h
      body :: quotedTexts after
    | none => quotedTexts rest
  | _ :: rest => quotedTexts rest
termination_by s => s.length
decreasing_by all_goals simp_wf <;> omega

/-- Replaces a pair of characters by one. -/
def replacePair (a b one : Char) : List Char → List Char
  | [] => []
  | [c] => [c]
  | c :: d :: rest =>
    if c = a && d = b then one :: replacePair a b one rest
    else c :: replacePair a b one (d :: rest)

/-- A quoted text without its escapes of quotes and backslashes. -/
def unescaped (body : List Char) : List Char :=
  replacePair '\\' '\\' '\\' (replacePair '\\' '"' '"' body)

/-- The ending of the names of compiled objects. -/
def objectEnding : List Char := ['.', 'b', 'e', 'a', 'm']

/-- The compiled objects that a listing names. -/
def listedFiles (cwd output : String) : FileSet :=
  let files := (quotedTexts output.toList).map unescaped
  FileSet.of cwd ((files.filter fun f => objectEnding.isSuffixOf f).map String.ofList)

end PltKeeper.Dialyzer
