import PltKeeper.Tree.Basic
import PltKeeper.Path.Basic
import PltKeeper.Failure

/-!
Access to a file tree through paths, the way an operating system grants it: every component but the
last must be an existing directory, `..` leads to the directory above, and each refusal has its own
reason. Paths are seen from a working directory. An access that is refused leaves the tree as it
was; making a directory with its parents keeps the parents it made, and adding texts to a file keeps
those that were added.
-/

namespace PltKeeper

/-- Why an access is refused. -/
inductive Refusal
  | missing
  | alreadyThere
  | notDirectory
  | isDirectory
  | nameTooLong
  /-- The path holds a character that no name may hold. -/
  | unusableName
  deriving DecidableEq, Repr

/-- Where the system stops adding bytes to a file, and why; in most trees it adds them all. -/
abbrev Stops := FileTree → List UInt8 → Option (Nat × SystemError)

/-- The failure that a refusal to access a file amounts to. -/
def Refusal.failure (file : String) : Refusal → Failure
  | missing => .system (.ofNumber 2 (some file))
  | alreadyThere => .system (.ofNumber 17 (some file))
  | notDirectory => .system (.ofNumber 20 (some file))
  | isDirectory => .system (.ofNumber 21 (some file))
  | nameTooLong => .system (.ofNumber 36 (some file))
  | unusableName => .unusable file

/-- The same failure, of the file under another name. -/
def Failure.renamed (file : String) : Failure → Failure
  | .system (.numbered number reason (some _)) => .system (.numbered number reason (some file))
  | e => e

namespace FileTree

/-- The most bytes that a name may have. -/
def longestName : Nat := 255

/-- The first length in bytes that a path may not have. -/
def pathLimit : Nat := 4096

/-- Where components lead from a location. The last one need not exist. -/
def follow (t : FileTree) (here : Location) : List String → Except Refusal Location
  | [] => .ok here
  | part :: rest =>
    match t.at? here with
    | none => .error .missing
    | some (.file _) => .error .notDirectory
    | some .dir =>
      if part = ".." then t.follow here.dropLast rest
      else if longestName < part.utf8ByteSize then .error .nameTooLong
      else t.follow (here ++ [part]) rest

/-- The location from which a path is followed. -/
def startOf (cwd : String) (p : Path) : Location :=
  if p.isAbsolute then [] else Path.components cwd

/-- Whether a path can be looked up at all, by its text alone. -/
def checkSpelling (p : Path) : Except Refusal Unit :=
  if p.parts.any fun part => part.toList.any Text.isUnusable then .error .unusableName
  else if pathLimit ≤ p.text.utf8ByteSize then .error .nameTooLong
  else .ok ()

/-- Where a path leads. -/
def reach (t : FileTree) (cwd : String) (p : Path) : Except Refusal Location := do
  checkSpelling p
  t.follow (startOf cwd p) p.parts

/-- What a path leads to. -/
def find (t : FileTree) (cwd : String) (p : Path) : Except Refusal Entry := do
  match t.at? (← t.reach cwd p) with
  | some e => return e
  | none => .error .missing

/-- Whether a path leads to an entry that satisfies `p`. Nothing there is no failure, but a name
that the system cannot look up is. -/
def test (t : FileTree) (cwd : String) (path : Path) (p : Entry → Bool) : Except Failure Bool :=
  match t.find cwd path with
  | .ok e => .ok (p e)
  | .error .nameTooLong => .error (Refusal.nameTooLong.failure path.text)
  | .error _ => .ok false

/-- Whether a path leads to anything. -/
def present (t : FileTree) (cwd : String) (p : Path) : Except Failure Bool :=
  t.test cwd p fun _ => true

/-- Whether a path leads to a directory. -/
def isDir (t : FileTree) (cwd : String) (p : Path) : Except Failure Bool :=
  t.test cwd p (· = .dir)

/-- Whether a path leads to a regular file. -/
def isFile (t : FileTree) (cwd : String) (p : Path) : Except Failure Bool :=
  t.test cwd p (·.bytes?.isSome)

/-- The names in a directory. -/
def list (t : FileTree) (cwd : String) (p : Path) : Except Failure (List String) :=
  Except.mapError (Refusal.failure p.text) do
    let l ← t.reach cwd p
    match t.at? l with
    | some .dir => return t.names l
    | some (.file _) => .error .notDirectory
    | none => .error .missing

/-- The bytes of a file. -/
def read (t : FileTree) (cwd : String) (p : Path) : Except Failure (List UInt8) :=
  Except.mapError (Refusal.failure p.text) do
    match ← t.find cwd p with
    | .file bytes => return bytes
    | .dir => .error .isDirectory

/-- Changes the bytes of a file, which is made if it is not there. -/
def modify (t : FileTree) (cwd : String) (p : Path) (change : List UInt8 → List UInt8) :
    Except Failure FileTree :=
  Except.mapError (Refusal.failure p.text) do
    let l ← t.reach cwd p
    match t.at? l with
    | some .dir => .error .isDirectory
    | some (.file bytes) => return t.put l (.file (change bytes))
    | none =>
      match t.at? l.dropLast with
      | some .dir => return t.put l (.file (change []))
      | some (.file _) => .error .notDirectory
      | none => .error .missing

/-- Replaces the bytes of a file, which is made if it is not there. -/
def write (t : FileTree) (cwd : String) (p : Path) (bytes : List UInt8) :
    Except Failure FileTree :=
  t.modify cwd p fun _ => bytes

/-- Adds bytes at the end of a file, which is made if it is not there. -/
def append (t : FileTree) (cwd : String) (p : Path) (bytes : List UInt8) :
    Except Failure FileTree :=
  t.modify cwd p fun old => old ++ bytes

/-- Adds texts at the end of a file, which is made if it is not there. A text that cannot be encoded
ends them, and those before it are added all the same. Where the system stops before that, what it has
added stays. -/
def appendTexts (t : FileTree) (cwd : String) (p : Path) (stops? : Stops) (texts : List String) :
    Except Failure Unit × FileTree :=
  let (bytes, fault) := Text.encodeAll texts
  let stop := stops? t bytes
  match t.append cwd p (match stop with
    | some (taken, _) => bytes.take taken
    | none => bytes) with
  | .error e => (.error e, t)
  | .ok t =>
    (match stop, fault with
      | some (_, e), _ => .error (.system e)
      | none, some fault => .error (.notEncodable fault "")
      | none, none => .ok (), t)

/-- What the text of a file's name says about the file beside its path. -/
inductive NameEnd
  /-- Nothing: it ends in a component. -/
  | plain
  /-- It ends in a slash and so can only be a directory's. What stands before its last component
  must be a directory; the component itself is not looked up. -/
  | slash
  /-- It ends in a single dot, after slashes or alone: what stands before must be a directory. -/
  | dot
  deriving DecidableEq, Repr

/-- How the text of a file's name ends. -/
def NameEnd.of (file : String) : NameEnd :=
  let last := file.toList.reverse
  let body := last.dropWhile (· = '/')
  match body with
  | ['.'] | '.' :: '/' :: _ => .dot
  | _ => if last.head? = some '/' then .slash else .plain

/-- Changes the bytes of a file that is named by a text. A name that can only be a directory's is
refused. -/
def modifyNamed (t : FileTree) (cwd file : String) (change : List UInt8 → List UInt8) :
    Except Failure FileTree :=
  let p := Path.parse file
  match NameEnd.of file with
  | .plain => Except.mapError (Failure.renamed file) (t.modify cwd p change)
  | .slash =>
    Except.mapError (Refusal.failure file) do
      checkSpelling p
      match ← t.find cwd p.parent with
      | .dir => .error .isDirectory
      | .file _ => .error .notDirectory
  | .dot =>
    Except.mapError (Refusal.failure file) do
      match ← t.find cwd p with
      | .dir => .error .isDirectory
      | .file _ => .error .notDirectory

/-- Makes one directory. -/
def makeDir (t : FileTree) (cwd : String) (p : Path) : Except Refusal FileTree := do
  let l ← t.reach cwd p
  match t.at? l with
  | some _ => .error .alreadyThere
  | none =>
    match t.at? l.dropLast with
    | some .dir => return t.put l .dir
    | some (.file _) => .error .notDirectory
    | none => .error .missing

/-- A refusal to make a directory is none if the directory is there. -/
def acceptDir (t : FileTree) (cwd : String) (p : Path) (r : Refusal) :
    Except Failure Unit × FileTree :=
  match t.isDir cwd p with
  | .ok true => (.ok (), t)
  | _ => (.error (r.failure p.text), t)

/-- Makes a directory and those above it, the components coming innermost first. -/
def makeDirsFrom (cwd : String) (anchor : Anchor) :
    List String → FileTree → Except Failure Unit × FileTree
  | [], t => (.ok (), t)
  | part :: up, t =>
    let p : Path := ⟨anchor, (part :: up).reverse⟩
    match t.makeDir cwd p with
    | .ok t => (.ok (), t)
    | .error .missing =>
      match makeDirsFrom cwd anchor up t with
      | (.error e, t) => (.error e, t)
      | (.ok _, t) =>
        match t.makeDir cwd p with
        | .ok t => (.ok (), t)
        | .error r => t.acceptDir cwd p r
    | .error r => t.acceptDir cwd p r

/-- Makes a directory and those above it, unless they are there. -/
def makeDirs (t : FileTree) (cwd : String) (p : Path) : Except Failure Unit × FileTree :=
  makeDirsFrom cwd p.anchor p.parts.reverse t

/-- Puts bytes at a path, with the directories above it, as far as that is possible. -/
def plant (t : FileTree) (cwd : String) (p : Path) (bytes : List UInt8) : FileTree :=
  let made := (t.makeDirs cwd p.parent).2
  match made.write cwd p bytes with
  | .ok t => t
  | .error _ => made

/-- Removes what a path leads to, with everything below it. -/
def remove (t : FileTree) (cwd : String) (p : Path) : FileTree :=
  match t.reach cwd p with
  | .ok l => t.erase l
  | .error _ => t

/-- The quoted form of a path in messages about copies. -/
def quotedPath (p : Path) : String := "PosixPath(" ++ Text.quoted p.text ++ ")"

/-- Copies the bytes of a file. A file is not copied onto itself. -/
def copy (t : FileTree) (cwd : String) (source destination : Path) : Except Failure FileTree := do
  let same := match t.reach cwd source, t.reach cwd destination with
    | .ok a, .ok b => a = b && (t.at? a).isSome
    | _, _ => false
  if same then
    .error (.system (.bare
      (quotedPath source ++ " and " ++ quotedPath destination ++ " are the same file")))
  else
    let bytes ← t.read cwd source
    t.write cwd destination bytes

end FileTree

end PltKeeper
