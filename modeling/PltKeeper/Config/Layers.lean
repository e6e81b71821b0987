import PltKeeper.Config.Coercion
import PltKeeper.Json.Reader
import PltKeeper.Log.Record
import PltKeeper.Path.Home
import PltKeeper.Tree.Access

/-!
The configuration in three layers: built-in defaults, then the values of the configuration file
whose type is that of the default, then environment variables. A value that does not fit is ignored
with a warning; which values there are never changes.
-/

namespace PltKeeper

/-- The keys of a section with their values. -/
abbrev ConfigSection := List (String × Json)

/-- A configuration: its sections with their keys, each in order. -/
abbrev Config := List (String × ConfigSection)

namespace Config

/-- A list of texts as a value. -/
def texts (items : List String) : Json := .arr (items.map Json.str)

/-- The start of the names of PLT files. -/
def defaultStem : String := "rebar3"

/-- The applications of the base PLT. -/
def defaultBaseApps : List String := ["erts", "crypto", "kernel", "stdlib"]

/-- The built-in values. -/
def defaults : Config :=
  [("dialyzer",
    [("update_plt", .bool true),
     ("succ_typings", .bool true),
     ("warnings", .arr []),
     ("get_warnings", .bool false),
     ("plt_extra_apps", .arr []),
     ("plt_location", .str "local"),
     ("plt_prefix", .str defaultStem),
     ("base_plt_apps", texts defaultBaseApps),
     ("base_plt_location", .str "global"),
     ("base_plt_prefix", .str defaultStem)]),
   ("paths",
    [("base_dir", .str "./_build/default"),
     ("global_cache_dir", .str "~/.cache/rebar3"),
     ("home_plt", .str "~/.dialyzer_plt")]),
   ("runtime",
    [("otp_release", .str ""),
     ("otp_root", .str ""),
     ("erl", .str "erl"),
     ("dialyzer", .str "dialyzer"),
     ("timeout", .int 0)]),
   ("project",
    [("apps", .arr []),
     ("code_paths", .arr [])])]

/-- The configuration as a document. -/
def document (c : Config) : Json := .obj (c.map fun s => (s.1, .obj s.2))

/-- Puts the sections of a document over those of another, key by key. -/
def overlaid (base : Json) (sections : List (String × Json)) : Json :=
  match base with
  | .obj all => .obj (sections.foldl (fun all (name, keys) =>
      match all.lookup name, keys with
      | some (.obj old), .obj new =>
        Json.putField all name (.obj (new.foldl (fun o (k, v) => Json.putField o k v) old))
      | _, other => Json.putField all name other) all)
  | other => other

/-- The directory of the tool's own files, below a project's root. -/
def stateDir : Path := Path.parse ".pf"

/-- The configuration file of a project. -/
def filePath (root : Path) : Path := (root / stateDir).child "config.json"

/-- Whether a value may stand where the default is `like`. A truth value may stand for a whole
number. -/
def fits (value like : Json) : Bool :=
  match value, like with
  | .bool _, .bool _ | .int _, .int _ | .bool _, .int _ | .str _, .str _ | .arr _, .arr _
  | .real _, .real _ | .obj _, .obj _ | .null, .null => true
  | _, _ => false

/-- Puts a value of the file into a section, or says why not. -/
def setKey (name : String) (state : ConfigSection × List LogRecord) (field : String × Json) :
    ConfigSection × List LogRecord :=
  let (keys, log) := state
  let (key, value) := field
  match keys.lookup key with
  | none => (keys, log ++ [⟨.warning, "Ignoring unknown config key " ++ name ++ "." ++ key⟩])
  | some current =>
    if fits value current then (Json.putField keys key value, log)
    else (keys, log ++ [⟨.warning, "Ignoring " ++ name ++ "." ++ key ++ ": expected " ++
      current.typeName ++ ", got " ++ value.typeName⟩])

/-- Puts the values of a document into the sections, which come in the order of the defaults. -/
def mergeFile (document : Json) : Config → Config × List LogRecord
  | [] => ([], [])
  | (name, keys) :: rest =>
    let (merged, log) := match document with
      | .obj fields =>
        match Json.field? fields name with
        | some (.obj fields) => fields.foldl (setKey name) (keys, [])
        | _ => (keys, [])
      | _ => (keys, [])
    let (others, more) := mergeFile document rest
    ((name, merged) :: others, log ++ more)

/-- The structured values, which only the file can give. -/
def isFileOnly (name key : String) : Bool := name = "project" && key = "apps"

/-- The environment variable of a key. -/
def variableName (name key : String) : String :=
  "PLTSYNC_" ++ name.toUpper ++ "_" ++ key.toUpper

/-- The value of a key after its environment variable, and what there is to say about it. -/
def overlayKey (host : Host) (name : String) (field : String × Json) :
    (String × Json) × List LogRecord :=
  let (key, value) := field
  if isFileOnly name key then (field, [])
  else
    match host.valueOf? (variableName name key) with
    | none => (field, [])
    | some text =>
      match coerce text value with
      | .ok v => ((key, v), [])
      | .error reason =>
        (field,
          [⟨.warning, "Invalid value for environment variable " ++ variableName name key ++ ": '" ++
            text ++ "' - " ++ reason⟩,
           ⟨.info, "Using default value: " ++ value.display⟩])

/-- Puts the environment variables into a section. -/
def overlaySection (host : Host) (s : String × ConfigSection) :
    (String × ConfigSection) × List LogRecord :=
  let parts := s.2.map (overlayKey host s.1)
  ((s.1, parts.map (·.1)), parts.flatMap (·.2))

/-- Puts the environment variables into a configuration. -/
def overlay (host : Host) (c : Config) : Config × List LogRecord :=
  let parts := c.map (overlaySection host)
  (parts.map (·.1), parts.flatMap (·.2))

/-- What is said when the file cannot be used. -/
def unusableFile (path : Path) (reason : String) : List LogRecord :=
  [⟨.warning, "Could not load config file from " ++ path.text ++ ": " ++ reason⟩,
   ⟨.info, "Continuing with default configuration"⟩]

/-- The file's document. One that is not there is an empty one. Bytes that are no text, numbers that
are too long and values nested too deeply are failures; other faults are only reported. -/
def readFile (host : Host) (t : FileTree) (root : Path) :
    Except Failure (Except (List LogRecord) Json) := do
  let path := filePath root
  let content : Except Failure (Option (List UInt8)) := do
    if ← t.present host.cwd path then return some (← t.read host.cwd path) else return none
  match content with
  | .error (.system e) => return .error (unusableFile path e.text)
  | .error e => .error e
  | .ok none => return .ok (.obj [])
  | .ok (some bytes) =>
    let text ← (Text.Utf8.decode bytes).mapError Failure.notUtf8
    match Json.read host.deepest text with
    | .ok document => return .ok document
    | .error .malformed => return .error (unusableFile path "not a document")
    | .error (.numberTooLong digits) =>
      .error (.badValue ((Text.NumeralFault.tooLong digits).message text))
    | .error (.tooDeep isObject) => .error (.tooDeep isObject)

/-- The configuration of a project, and what there is to say about it. -/
def load (host : Host) (t : FileTree) (root : Path) :
    Except Failure (Config × List LogRecord) := do
  let (fromFile, log) := match ← readFile host t root with
    | .ok document => mergeFile document defaults
    | .error log => (defaults, log)
  let (c, more) := overlay host fromFile
  return (c, log ++ more)

end Config

end PltKeeper
