import PltKeeper.Proofs.Config.Merging
import PltKeeper.Run.Settings

/-! A configuration is loaded whatever stands in its file, key by key, and the options of a run are taken
from it where a caller gives none. -/
namespace PltKeeper.Config

variable {host : Host} {t : FileTree} {root : Path} {name key : String} {written : Option Json}

/-! ## Values keep the type of their default -/

/-- The file changes the type of a value only where it gives a truth value for a whole number. -/
theorem typeName_fromFile {given : Option Json} {default : Json}
    (noTruth : default.typeName = "int" → ∀ b, given ≠ some (.bool b)) :
    (fromFile given default).typeName = default.typeName := by
  cases given with
  | none => rfl
  | some value =>
    by_cases ofType : IsInstance value default
    · rw [fromFile, if_pos ofType]
      refine ofType.resolve_right ?_
      rintro ⟨truth, number⟩
      cases value with
      | bool b => exact noTruth number b rfl
      | _ => simp [Json.typeName] at truth
    · rw [fromFile, if_neg ofType]

theorem typeName_coerce {text : String} {like value : Json}
    (spelled : like.typeName ∈ ["int", "bool", "str", "list"]) (ok : coerce text like = .ok value) :
    value.typeName = like.typeName := by
  cases like with
  | bool b =>
    rw [coerce] at ok
    cases read : readBool text with
    | ok b' => simp_all [Except.map, Json.typeName]; exact ok ▸ rfl
    | error reason => simp [read, Except.map] at ok
  | int n =>
    rw [coerce] at ok
    cases read : Text.readInt text.toList with
    | ok n' => simp_all [Except.map, Except.mapError, Json.typeName]; exact ok ▸ rfl
    | error fault => simp [read, Except.map, Except.mapError] at ok
  | str s => cases ok; rfl
  | arr items => cases ok; rfl
  | _ => simp [Json.typeName] at spelled

theorem typeName_fromVariable {value : Json} (spelled : value.typeName ∈ ["int", "bool", "str", "list"]) :
    (fromVariable host name key value).typeName = value.typeName := by
  rw [fromVariable]
  split
  · rfl
  · split
    · rename_i text _
      cases coerced : coerce text value with
      | ok v => exact typeName_coerce spelled coerced
      | error reason => rfl
    · rfl

theorem typeName_valueAfter {default : Json} (spelled : default.typeName ∈ ["int", "bool", "str", "list"])
    (noTruth : default.typeName = "int" → ∀ b, written.bind (given? · name key) ≠ some (.bool b)) :
    (valueAfter host written name key default).typeName = default.typeName := by
  have kept : (fromFile (written.bind (given? · name key)) default).typeName = default.typeName :=
    typeName_fromFile noTruth
  rw [valueAfter, typeName_fromVariable (kept ▸ spelled), kept]

/-! ## The options of a run -/

/-- Nothing fails unless the home directory of a user is not known. -/
abbrev NeedsHome {α : Type} (x : Except Failure α) : Prop := OnlyFails x (· = .unknownHome)

theorem needsHome_expandHome (p : Path) : NeedsHome (host.expandHome p) := by
  intro e failed
  unfold Host.expandHome at failed
  split at failed
  · split at failed
    · split at failed <;> cases failed
      rfl
    · cases failed
  · cases failed

theorem needsHome_pathOf {value : Json} (text : value.typeName = "str") :
    NeedsHome (Settings.pathOf host value) := by
  cases value with
  | str s => exact needsHome_expandHome _
  | _ => simp [Json.typeName] at text

theorem needsHome_locationOf {value : Json} (text : value.typeName = "str") :
    NeedsHome (Settings.locationOf host root value) := by
  cases value with
  | str s =>
    rw [Settings.locationOf]
    split
    · exact OnlyFails.ok _
    · exact OnlyFails.bind (needsHome_expandHome _) fun p _ => OnlyFails.ok _
  | _ => simp [Json.typeName] at text

theorem needsHome_elements {value : Json} (list : value.typeName = "list") : NeedsHome value.elements := by
  cases value with
  | arr items => exact OnlyFails.ok _
  | _ => simp [Json.typeName] at list

/-- The fields of a section of the loaded configuration. -/
def sectionOf (host : Host) (written : Option Json) (name : String) : List (String × Json) :=
  ((layered host written).lookup name).getD []

theorem sections_layered {keys : ConfigSection} (known : defaults.lookup name = some keys) :
    (document (layered host written)).section? name = .ok (sectionOf host written name) := by
  have found : Json.field? ((layered host written).map fun s => (s.1, Json.obj s.2)) name =
      ((layered host written).lookup name).map Json.obj := Json.lookup_map fun _ => Json.obj
  rw [document, Json.section?, found, sectionOf, lookup_layered, known]
  rfl

theorem field?_sectionOf {default : Json} (known : defaults.value? name key = some default) :
    Json.field? (sectionOf host written name) key = some (valueAfter host written name key default) := by
  obtain ⟨keys, ofName, ofKey⟩ := Option.bind_eq_some_iff.mp known
  rw [sectionOf, lookup_layered, ofName]
  exact (Json.lookup_map (valueAfter host written name)).trans (by rw [ofKey]; rfl)

theorem get_sectionOf {default missing : Json} (known : defaults.value? name key = some default) :
    Settings.get (sectionOf host written name) key missing = valueAfter host written name key default := by
  rw [Settings.get, field?_sectionOf known, Option.getD_some]

theorem typeName_get {default missing : Json} (known : defaults.value? name key = some default)
    (spelled : default.typeName ∈ ["bool", "str", "list"]) :
    (Settings.get (sectionOf host written name) key missing).typeName = default.typeName := by
  rw [get_sectionOf known]
  refine typeName_valueAfter (.tail _ spelled) fun number => ?_
  simp [number] at spelled

/-- A loaded configuration gives options, unless a home directory is not known. -/
theorem needsHome_ofDocument : NeedsHome (Settings.ofDocument host root (document (layered host written))) := by
  have paths : (document (layered host written)).section? "paths" = .ok (sectionOf host written "paths") :=
    sections_layered rfl
  have options : (document (layered host written)).section? "dialyzer" = .ok (sectionOf host written "dialyzer") :=
    sections_layered rfl
  have list {key : String} {items : List Json} {missing : Json}
      (known : defaults.value? "dialyzer" key = some (.arr items)) :
      NeedsHome (Settings.get (sectionOf host written "dialyzer") key missing).elements :=
    needsHome_elements (typeName_get known (by simp [Json.typeName]))
  have text {name key s : String} {missing : Json} (known : defaults.value? name key = some (.str s)) :
      (Settings.get (sectionOf host written name) key missing).typeName = "str" :=
    typeName_get known (by simp [Json.typeName])
  -- The steps as they come: each list is one and each path a text, since values keep their types.
  rw [Settings.ofDocument, paths, options]
  refine OnlyFails.bind (OnlyFails.ok _) fun _ here => ?_
  cases here
  refine OnlyFails.bind (needsHome_pathOf (text rfl)) fun baseDir _ => ?_
  refine OnlyFails.bind (OnlyFails.ok _) fun _ here => ?_
  cases here
  refine OnlyFails.bind (list rfl) fun warnings _ => ?_
  refine OnlyFails.bind (list rfl) fun extraApps _ => ?_
  refine OnlyFails.bind (needsHome_locationOf (text rfl)) fun location _ => ?_
  refine OnlyFails.bind (list rfl) fun baseApps _ => ?_
  refine OnlyFails.bind (needsHome_locationOf (text rfl)) fun baseLocation _ => ?_
  refine OnlyFails.bind (needsHome_pathOf (text rfl)) fun cacheDir _ => ?_
  dsimp only
  split
  · rename_i given
    refine OnlyFails.bind ?_ fun home _ => OnlyFails.ok _
    have home : (Settings.getSet (sectionOf host written "paths") "home_plt" .null).typeName = "str" := by
      rw [Settings.getSet, field?_sectionOf rfl] at given ⊢
      dsimp only at given ⊢
      split at given
      · rename_i isSet
        rw [if_pos isSet]
        exact typeName_valueAfter (by simp [Json.typeName]) (by simp [Json.typeName])
      · cases given
    exact OnlyFails.bind (needsHome_pathOf home) fun _ _ => OnlyFails.ok _
  · exact OnlyFails.ok _

/-- What options are made of: two are what the configuration has for them, as truth values, the locations
are those that it names, and the usual directories are paths. -/
theorem parts_of_ofDocument {cfg : Json} {options : List (String × Json)}
    (dialyzer : cfg.section? "dialyzer" = .ok options) {s : Settings}
    (ran : Settings.ofDocument host root cfg = .ok s) :
    s.updatePlt = .bool (Settings.get options "update_plt" (.bool true)).isSet ∧
      s.succTypings = .bool (Settings.get options "succ_typings" (.bool true)).isSet ∧
      Settings.locationOf host root (Settings.get options "plt_location" (.str "local")) = .ok s.location ∧
      Settings.locationOf host root (Settings.get options "base_plt_location" (.str "global")) = .ok s.baseLocation ∧
      (∃ baseDir, s.baseDir = .path baseDir) ∧ ∃ cacheDir, s.cacheDir = .path cacheDir := by
  rw [Settings.ofDocument, dialyzer] at ran
  obtain ⟨paths, -, ran⟩ := bind_ok_iff.mp ran
  obtain ⟨baseDir, -, ran⟩ := bind_ok_iff.mp ran
  obtain ⟨_, ⟨⟩, ran⟩ := bind_ok_iff.mp ran
  obtain ⟨warnings, -, ran⟩ := bind_ok_iff.mp ran
  obtain ⟨extraApps, -, ran⟩ := bind_ok_iff.mp ran
  obtain ⟨location, located, ran⟩ := bind_ok_iff.mp ran
  obtain ⟨baseApps, -, ran⟩ := bind_ok_iff.mp ran
  obtain ⟨baseLocation, baseLocated, ran⟩ := bind_ok_iff.mp ran
  obtain ⟨cacheDir, -, ran⟩ := bind_ok_iff.mp ran
  dsimp only at ran
  split at ran
  · obtain ⟨home, -, ran⟩ := bind_ok_iff.mp ran
    cases ran
    exact ⟨rfl, rfl, located, baseLocated, ⟨_, rfl⟩, _, rfl⟩
  · cases ran
    exact ⟨rfl, rfl, located, baseLocated, ⟨_, rfl⟩, _, rfl⟩

theorem bool_isSet {value : Json} (truth : value.typeName = "bool") : .bool value.isSet = value := by
  cases value with
  | bool b => rfl
  | _ => simp [Json.typeName] at truth

/-- What a caller leaves open is what the loaded configuration says. -/
theorem choices_of_layered {s : Settings}
    (ran : Settings.ofDocument host root (document (layered host written)) = .ok s) :
    some s.updatePlt = (layered host written).value? "dialyzer" "update_plt" ∧
      some s.succTypings = (layered host written).value? "dialyzer" "succ_typings" := by
  have truth {key : String} {b : Bool} {missing : Json} (known : defaults.value? "dialyzer" key = some (.bool b)) :
      some (Json.bool (Settings.get (sectionOf host written "dialyzer") key missing).isSet) =
        (layered host written).value? "dialyzer" key := by
    rw [bool_isSet (typeName_get known (by simp [Json.typeName])), get_sectionOf known, value?_layered, known]
    rfl
  obtain ⟨updatePlt, succTypings, -⟩ := parts_of_ofDocument (sections_layered rfl) ran
  exact ⟨updatePlt ▸ truth rfl, succTypings ▸ truth rfl⟩

/-! ## What a caller gives -/

theorem set_cases {s s' : Settings} {value : Json} (ran : s.set name value = .ok s') :
    s'.updatePlt = (if name = "update_plt" then value else s.updatePlt) ∧
      s'.succTypings = (if name = "succ_typings" then value else s.succTypings) := by
  unfold Settings.set at ran
  split at ran <;> cases ran <;> simp

theorem set_error {s : Settings} {value : Json} {e : Failure} (failed : s.set name value = .error e) :
    e = .badType ("unexpected option '" ++ name ++ "'") := by
  unfold Settings.set at failed
  split at failed <;> cases failed
  rfl

/-- One option: null leaves the options as they were. -/
def overrideOne (s : Settings) (name : String) (value : Json) : Except Failure Settings :=
  match value with
  | .null => .ok s
  | value => s.set name value

theorem override_cons {s : Settings} {value : Json} {rest : List (String × Json)} :
    s.override ((name, value) :: rest) = overrideOne s name value >>= (·.override rest) := rfl

theorem given?_cons_self {option : String} {value : Json} {rest : List (String × Json)} :
    (Json.obj ((option, value) :: rest)).given? option = (Json.obj [(option, value)]).given? option := by
  simp [Json.given?, Json.get?, Json.field?]

theorem given?_cons_of_ne {option : String} {value : Json} {rest : List (String × Json)}
    (other : name ≠ option) : (Json.obj ((name, value) :: rest)).given? option = (Json.obj rest).given? option := by
  have apart : (option == name) = false := by simpa using other.symm
  simp [Json.given?, Json.get?, Json.field?, List.lookup_cons, apart]

theorem given?_none {option : String} {options : List (String × Json)} (absent : option ∉ options.map (·.1)) :
    (Json.obj options).given? option = none := by
  rw [Json.given?, Json.get?, Json.field?, Json.lookup_eq_none_iff_notMem.mpr absent]

/-- An option that is given once and not as null is taken, any other is left as it was. -/
theorem override_field {field : Settings → Json} {option : String}
    (sets : ∀ {s s' : Settings} {name value}, s.set name value = .ok s' →
      field s' = if name = option then value else field s)
    {options : List (String × Json)} (once : (options.map (·.1)).Nodup) {s s' : Settings}
    (ran : s.override options = .ok s') :
    field s' = ((Json.obj options).given? option).getD (field s) := by
  induction options generalizing s with
  | nil => cases ran; rfl
  | cons first rest ih =>
    obtain ⟨name, value⟩ := first
    rw [List.map_cons, List.nodup_cons] at once
    obtain ⟨middle, one, others⟩ := bind_ok_iff.mp (override_cons ▸ ran)
    by_cases same : name = option
    · subst same
      rw [ih once.2 others, given?_none once.1, given?_cons_self, Option.getD_none]
      cases value with
      | null => cases one; simp [Json.given?, Json.get?, Json.field?]
      | _ => simpa [Json.given?, Json.get?, Json.field?] using sets one
    · rw [ih once.2 others, given?_cons_of_ne same]
      cases value with
      | null => cases one; rfl
      | _ => rw [sets one, if_neg same]

theorem override_error {options : List (String × Json)} {s : Settings} {e : Failure}
    (failed : s.override options = .error e) :
    ∃ option ∈ options, e = .badType ("unexpected option '" ++ option.1 ++ "'") := by
  induction options generalizing s with
  | nil => cases failed
  | cons first rest ih =>
    obtain ⟨name, value⟩ := first
    rw [override_cons] at failed
    cases one : overrideOne s name value with
    | ok middle =>
      rw [one] at failed
      obtain ⟨option, member, text⟩ := ih failed
      exact ⟨option, .tail _ member, text⟩
    | error e' =>
      rw [one] at failed
      cases failed
      cases value with
      | null => cases one
      | _ => exact ⟨_, .head _, set_error one⟩

/-! ## Exact layers -/

/-- The options of a run: those of the configuration, with what a caller gives in their place. -/
def optionsOf (host : Host) (root : Path) (c : Config) (given : List (String × Json)) :
    Except Failure Settings := do
  (← Settings.ofDocument host root (document c)).override given

/-- The configuration says whether the PLT is brought up to date and whether success typing is run,
unless the caller does. Nothing else can come of it but a home directory that is not known or an option
that there is not. -/
def Decides (host : Host) (root : Path) (c : Config) : Prop :=
  ∀ given : List (String × Json), (given.map (·.1)).Nodup →
    match optionsOf host root c given with
    | .ok s =>
      some s.updatePlt = ((Json.obj given).given? "update_plt").or (c.value? "dialyzer" "update_plt") ∧
        some s.succTypings = ((Json.obj given).given? "succ_typings").or (c.value? "dialyzer" "succ_typings")
    | .error e =>
      e = .unknownHome ∨ ∃ option ∈ given, e = .badType ("unexpected option '" ++ option.1 ++ "'")

theorem decides_layered : Decides host root (layered host written) := by
  intro given once
  rw [optionsOf]
  cases ran : Settings.ofDocument host root (document (layered host written)) with
  | error e => exact .inl (needsHome_ofDocument e ran)
  | ok s =>
    obtain ⟨updatePlt, succTypings⟩ := choices_of_layered ran
    change match s.override given with | .ok s => _ | .error e => _
    cases overridden : s.override given with
    | error e => exact .inr (override_error overridden)
    | ok s' =>
      have first := override_field (fun ran => (set_cases ran).1) once overridden
      have second := override_field (fun ran => (set_cases ran).2) once overridden
      rw [← updatePlt, ← succTypings]
      dsimp only
      rw [first, second]
      exact ⟨by cases (Json.obj given).given? "update_plt" <;> rfl,
        by cases (Json.obj given).given? "succ_typings" <;> rfl⟩

/-- Whatever stands in the configuration file, a configuration is loaded. It has the sections and keys of
the defaults, and the value of each key is what the layers make of its default: the file's value, if the
file gives one of the default's type, then the variable's, if that can be read as a value of this type.
It decides what a caller leaves open. No key depends on what stands in the file for another key, or on
the variable of another. -/
theorem load_exact (gives : FileGives host t root written) :
    ∃ c log, load host t root = .ok (c, log) ∧
      c.map (fun s => (s.1, s.2.map (·.1))) = defaults.map (fun s => (s.1, s.2.map (·.1))) ∧
      (∀ name key, c.value? name key = (defaults.value? name key).map (valueAfter host written name key)) ∧
      Decides host root c ∧
      (defaults.flatMap fun s => s.2.map fun f => variableName s.1 f.1).Nodup ∧
      ∀ {host' : Host} {t' : FileTree} {root' : Path} {written' : Option Json},
        FileGives host' t' root' written' →
        ∃ c' log', load host' t' root' = .ok (c', log') ∧
          ∀ name key, written'.bind (given? · name key) = written.bind (given? · name key) →
            host'.valueOf? (variableName name key) = host.valueOf? (variableName name key) →
            c'.value? name key = c.value? name key := by
  obtain ⟨log, loaded⟩ := load_eq gives
  refine ⟨layered host written, log, loaded, by simp [layered, Function.comp_def], fun _ _ => value?_layered written,
    decides_layered, nodup_variables, fun {host' t' root' written'} gives' => ?_⟩
  obtain ⟨log', loaded'⟩ := load_eq gives'
  refine ⟨layered host' written', log', loaded', fun name key sameFile sameVariable => ?_⟩
  rw [value?_layered, value?_layered]
  congr 1
  funext default
  rw [valueAfter, valueAfter, fromVariable, fromVariable, sameFile, sameVariable]

/-! ### A project that says the same twice -/

/-- The text of a configuration file: a program given twice, a truth value for a number, and a list for the
name of a program. -/
def sampleText : String :=
  "\x7b\"runtime\":\x7b\"erl\":\"a\",\"erl\":\"b\",\"timeout\":true,\"dialyzer\":[]\x7d\x7d"

/-- The tree that the file stands in. -/
def sampleTree : FileTree where
  entries := [
    (["w"], .dir),
    (["w", ".pf"], .dir),
    (["w", ".pf", "config.json"], .file (Text.Utf8.encode sampleText))]

/-- The machine, with a variable that spells a truth value and one that spells none. -/
def sampleHost : Host where
  cwd := "/w"
  home := "/h"
  users := []
  environment := [("PLTSYNC_RUNTIME_TIMEOUT", "600"), ("PLTSYNC_DIALYZER_UPDATE_PLT", " Off ")]

/-- The last program counts, the number has become a truth value, so that its variable spells nothing, the
list is left out, and the other variable counts. -/
theorem load_of_sample :
    ∃ written, FileGives sampleHost sampleTree .here (some written) ∧
      ∃ c log, load sampleHost sampleTree .here = .ok (c, log) ∧ Decides sampleHost .here c ∧
        (c.value? "runtime" "erl").map Json.display = some "b" ∧
        (c.value? "runtime" "timeout").map Json.display = some "True" ∧
        (c.value? "runtime" "dialyzer").map Json.display = some "dialyzer" ∧
        (c.value? "dialyzer" "update_plt").map Json.display = some "False" := by
  have isDocument : (Json.read sampleHost.deepest sampleText).isOk = true := by decide +kernel
  cases spelled : Json.read sampleHost.deepest sampleText with
  | error fault => simp [spelled, Except.isOk, Except.toBool] at isDocument
  | ok value =>
    obtain ⟨written, document, -⟩ := Json.read_ok_iff.mp spelled
    have stands : sampleTree.read sampleHost.cwd (filePath .here) = .ok (Text.Utf8.encode sampleText) := by
      decide +kernel
    have gives : FileGives sampleHost sampleTree .here (some written) := .document stands (by decide +kernel) document
    obtain ⟨c, log, loaded, -, -, decides, -⟩ := load_exact gives
    have values : ((load sampleHost sampleTree .here).toOption.map fun r =>
        [("runtime", "erl"), ("runtime", "timeout"), ("runtime", "dialyzer"), ("dialyzer", "update_plt")].map
          fun k => (r.1.value? k.1 k.2).map Json.display) =
        some [some "b", some "True", some "dialyzer", some "False"] := by decide +kernel
    simp only [loaded, Except.toOption, Option.map_some, List.map_cons, List.map_nil, Option.some.injEq,
      List.cons.injEq, and_true] at values
    exact ⟨written, gives, c, log, loaded, decides, values⟩

end PltKeeper.Config
