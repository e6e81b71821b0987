import PltKeeper.Backend.Listing
import PltKeeper.Command.Machine
import PltKeeper.Json.Access

/-!
Rehearsals: the tool runs on a machine that a document describes. The document gives the working
directory, the environment, a file tree and the outcomes of the processes to come, so that a run
depends on nothing else and shows what the tool would do.
-/

namespace PltKeeper.Rehearsal

/-- How deep the lists and objects of a description may be nested. -/
def depth : Nat := 985

/-! ## Files -/

/-- The bytes that hexadecimal digits spell, two digits a byte. -/
def bytesOfHex : List Char → List UInt8
  | high :: low :: rest =>
    match Json.hexValue? high, Json.hexValue? low with
    | some high, some low => (16 * high + low).toUInt8 :: bytesOfHex rest
    | _, _ => bytesOfHex rest
  | _ => []

/-- The content of an object file. -/
def objectCode : List UInt8 := Text.Utf8.encode "FOR1"

/-- Makes a directory that holds the object files of modules. -/
def plantModules (cwd : String) (t : FileTree) (p : Path) (modules : List String) : FileTree :=
  modules.foldl (fun t name => t.plant cwd (p.child (name ++ ".beam")) objectCode)
    (t.makeDirs cwd p).2

/-- Applies one item to a tree: a text file, a file of bytes, a listed PLT, a directory of object
files, an empty directory, or a removal. -/
def plantItem (cwd : String) (t : FileTree) (p : Path) : Json → FileTree
  | .str content => t.plant cwd p (Text.Utf8.encode content)
  | item =>
    if item.flag "delete" false then t.remove cwd p
    else match item.get? "hex", item.get? "plt", item.get? "beams" with
      | some (.str digits), _, _ => t.plant cwd p (bytesOfHex digits.toList)
      | _, some (.arr files), _ =>
        t.plant cwd p (Listing.render
          ((files.filterMap Json.asText?).mergeSort fun a b => decide (a ≤ b)))
      | _, _, some (.arr modules) => plantModules cwd t p (modules.filterMap Json.asText?)
      | _, _, _ => (t.makeDirs cwd p).2

/-- Applies items to a tree, one after the other; an item is a path and what is to be there. -/
def plantAll (cwd : String) (t : FileTree) (items : List Json) : FileTree :=
  items.foldl (fun t item =>
    match item with
    | .arr [.str name, item] => plantItem cwd t (Path.parse name) item
    | _ => t) t

/-! ## Processes -/

/-- What a process does. One that is not described further succeeds silently. -/
def processOf (cwd : String) (j : Json) : ProcessOutcome :=
  if j.flag "timeout" false then { ended := .timedOut }
  else if j.flag "interrupt" false then { ended := .interrupted }
  else match j.get? "oserror" with
    | some (.arr (number :: rest)) =>
      let reason := rest.head?.bind Json.asText?
      let file := (rest.drop 1).head?.bind Json.asText?
      { ended := .refused (.numbered ((Json.asInt? number).getD 0) reason file) }
    | _ =>
      { ended := .finished (j.number "rc" 0) (j.text "out" "") (j.text "err" "")
        effect := fun t => plantAll cwd t (j.items "writes") }

/-- The processes to come. -/
def shellOf (cwd : String) (j : Json) : Shell :=
  { pending := (j.items "procs").map (processOf cwd) }

/-- The programs that can be launched: all but those said to be missing. -/
def programsOf (j : Json) : Programs := Programs.under "/usr/bin/" (j.texts "missing")

/-! ## Machines -/

/-- The fields of an object that are texts. -/
def textFields (j : Json) (key : String) : List (String × String) :=
  (j.fields key).filterMap fun (name, value) => value.asText?.map fun s => (name, s)

/-- The home directory that the environment names, or the one known otherwise. Slashes at its end do
not count, and an empty name is that of the root. -/
def homeIn (environment : List (String × String)) (home : String) : String :=
  match environment.lookup "HOME" with
  | some named =>
    let named := Text.dropEndWhile (· = '/') named.toList
    if named.isEmpty then "/" else String.ofList named
  | none => home

/-- Directories and environment, seen from a working directory. -/
def hostOf (cwd home : String) (users : List (String × String)) (j : Json) : Host where
  cwd := cwd
  home := homeIn (textFields j "env") home
  users := users
  environment := textFields j "env"

/-- The working directory of a described machine. -/
def workDir (j : Json) : String := j.text "cwd" "/work"

/-- The machine that a document describes. -/
def machineOf (j : Json) : Command.Machine where
  host := hostOf (workDir j) (j.text "home" "/home") (textFields j "users") j
  programs := programsOf j
  screen := { width := (j.number "width" 80).toNat }
  now := j.text "now" ""

/-- What a command finds on the machine that a document describes. -/
def stateOf (j : Json) : Command.State :=
  let cwd := workDir j
  let start := (FileTree.empty.makeDirs cwd (Path.parse cwd)).2
  { tree := plantAll cwd start (j.items "tree"), shell := shellOf cwd j }

end PltKeeper.Rehearsal
