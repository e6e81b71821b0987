import PltKeeper.Application.Project
import PltKeeper.Config.Layers
import PltKeeper.Plt.Place

/-!
The options of a run and the project it is for, as a configuration gives them. An option that a
caller sets otherwise keeps the value that the caller has for it, whatever its type: it is a fault
only where the option is used.
-/

namespace PltKeeper

/-- The options of a run. -/
structure Settings where
  /-- Whether the project PLT is brought up to date; any value that is set says yes. -/
  updatePlt : Json := .bool true
  /-- Whether success typing is run; any value that is set says yes. -/
  succTypings : Json := .bool true
  /-- The warning categories, a list. -/
  warnings : Json := .arr []
  /-- Whether maintenance reports warnings; any value that is set says yes. -/
  getWarnings : Json := .bool false
  /-- Applications in the project PLT besides those of the base PLT, a list. -/
  extraApps : Json := .arr []
  /-- Where the project PLT is. -/
  location : PltLocation := .word PltLocation.localKeyword
  /-- The start of the project PLT's name. -/
  stem : Json := .str Config.defaultStem
  /-- The applications of the base PLT, a list. -/
  baseApps : Json := Config.texts Config.defaultBaseApps
  /-- Where the base PLT is. -/
  baseLocation : PltLocation := .word PltLocation.globalKeyword
  /-- The start of the base PLT's name. -/
  baseStem : Json := .str Config.defaultStem
  /-- The directory of the project's build. -/
  baseDir : Directory
  /-- The directory that all projects share. -/
  cacheDir : Directory
  /-- The PLT that the tool behind the analysis takes for its own, by its path. -/
  homePlt : Option String := none
  deriving Inhabited

/-- The fields of a section. A section that is missing has none. -/
def Json.section? (cfg : Json) (name : String) : Except Failure (List (String × Json)) :=
  match cfg with
  | .obj sections =>
    match Json.field? sections name with
    | some (.obj fields) => .ok fields
    | some value => .error
        (.missingProperty ("'" ++ value.typeName ++ "' object has no attribute 'get'"))
    | none => .ok []
  | value => .error
      (.missingProperty ("'" ++ value.typeName ++ "' object has no attribute 'get'"))

namespace Settings

/-- The value of a field, or what stands for it if it is missing. -/
def get (fields : List (String × Json)) (key : String) (missing : Json) : Json :=
  (Json.field? fields key).getD missing

/-- The value of a field if it is set, else what stands for it. -/
def getSet (fields : List (String × Json)) (key : String) (unset : Json) : Json :=
  match Json.field? fields key with
  | some value => if value.isSet then value else unset
  | none => unset

/-- The location that a value names, seen from a root unless it is a keyword. -/
def locationOf (host : Host) (root : Path) (value : Json) : Except Failure PltLocation :=
  let path : Except Failure PltLocation := do
    let p ← host.expandHome (Path.parse value.display)
    return .directory (.path (root / p))
  match value with
  | .str s =>
    if s = PltLocation.localKeyword || s = PltLocation.globalKeyword then .ok (.word s) else path
  | _ => path

/-- The path that a value names, with a tilde at its front replaced. -/
def pathOf (host : Host) (value : Json) : Except Failure Path := do
  host.expandHome (← value.asPath)

/-- The options that a configuration gives to a project at `root`. -/
def ofDocument (host : Host) (root : Path) (cfg : Json) : Except Failure Settings := do
  let paths ← cfg.section? "paths"
  let baseDir ← pathOf host (get paths "base_dir" (.str "_build/default"))
  let homePlt := getSet paths "home_plt" .null
  let options ← cfg.section? "dialyzer"
  let warnings ← (get options "warnings" (.arr [])).elements
  let extraApps ← (get options "plt_extra_apps" (.arr [])).elements
  let location ← locationOf host root (get options "plt_location" (.str "local"))
  let baseApps ← (get options "base_plt_apps" (Config.texts Config.defaultBaseApps)).elements
  let baseLocation ← locationOf host root (get options "base_plt_location" (.str "global"))
  let cacheDir ← pathOf host (get paths "global_cache_dir" (.str "~/.cache/rebar3"))
  let home ← if homePlt.isSet then some <$> pathOf host homePlt else pure none
  return {
    updatePlt := .bool (get options "update_plt" (.bool true)).isSet
    succTypings := .bool (get options "succ_typings" (.bool true)).isSet
    warnings := .arr warnings
    getWarnings := .bool (get options "get_warnings" (.bool false)).isSet
    extraApps := .arr extraApps
    location := location
    stem := getSet options "plt_prefix" (.str Config.defaultStem)
    baseApps := .arr baseApps
    baseLocation := baseLocation
    baseStem := getSet options "base_plt_prefix" (.str Config.defaultStem)
    baseDir := .path (root / baseDir)
    cacheDir := .path cacheDir
    homePlt := home.map Path.text }

/-- The location that a caller gives. -/
def givenLocation : Json → PltLocation
  | .str s => .word s
  | value => .directory (.other value.display)

/-- Sets an option by its name in the configuration. -/
def set (s : Settings) (name : String) (value : Json) : Except Failure Settings :=
  match name with
  | "update_plt" => .ok { s with updatePlt := value }
  | "succ_typings" => .ok { s with succTypings := value }
  | "get_warnings" => .ok { s with getWarnings := value }
  | "warnings" => .ok { s with warnings := value }
  | "plt_extra_apps" => .ok { s with extraApps := value }
  | "plt_location" => .ok { s with location := givenLocation value }
  | "plt_prefix" => .ok { s with stem := value }
  | "base_plt_apps" => .ok { s with baseApps := value }
  | "base_plt_location" => .ok { s with baseLocation := givenLocation value }
  | "base_plt_prefix" => .ok { s with baseStem := value }
  | "base_dir" => .ok { s with baseDir := .other value.display }
  | "global_cache_dir" => .ok { s with cacheDir := .other value.display }
  | "home_plt" => .ok { s with homePlt := some value.display }
  | _ => .error (.badType ("unexpected option '" ++ name ++ "'"))

/-- Sets the options that are given; one without a value leaves the configuration's. -/
def override (s : Settings) (options : List (String × Json)) : Except Failure Settings :=
  options.foldlM (fun s (name, value) =>
    match value with
    | .null => .ok s
    | value => s.set name value) s

end Settings

/-- The project that a configuration describes. -/
def Project.ofDocument (host : Host) (root : Path) (cfg : Json) : Except Failure Project := do
  let fields ← cfg.section? "project"
  let apps ← (← (Settings.get fields "apps" (.arr [])).elements).mapM
    (ProjectApp.ofDocument host (some root))
  let codePaths ← (← (Settings.get fields "code_paths" (.arr [])).elements).mapM fun value => do
    return root / (← Settings.pathOf host value)
  return ⟨apps, codePaths⟩

end PltKeeper
