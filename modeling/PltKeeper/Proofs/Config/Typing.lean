import PltKeeper.Proofs.Config.FileFaults

/-! The values of a loaded configuration have the types of their defaults, and a variable is read by the type
of the default, whatever the file gives. Of one kind of value nothing is said: a truth value that the file
gives for a whole number. One key has no variable, so that only the file gives it a value. -/
namespace PltKeeper.Config

variable {host : Host} {t : FileTree} {root : Path} {name key : String} {written : Option Json} {default : Json}

/-- The file gives a truth value for a key whose default is a whole number. -/
def TruthForNumber (written : Option Json) (name key : String) : Prop :=
  (defaults.value? name key).map Json.typeName = some "int" ∧
    ∃ b, written.bind (given? · name key) = some (.bool b)

theorem noTruth_of_default (known : defaults.value? name key = some default)
    (apart : ¬ TruthForNumber written name key) (number : default.typeName = "int") (b : Bool) :
    written.bind (given? · name key) ≠ some (.bool b) :=
  fun truth => apart ⟨by rw [known, Option.map_some, number], b, truth⟩

/-- Each default is of one of four types. -/
theorem typeName_of_default (known : defaults.value? name key = some default) :
    default.typeName ∈ ["int", "bool", "str", "list"] := by
  have plain : ∀ s ∈ defaults, ∀ f ∈ s.2, f.2.typeName ∈ ["int", "bool", "str", "list"] := by decide
  obtain ⟨keys, ofName, ofKey⟩ := Option.bind_eq_some_iff.mp known
  obtain ⟨sections, others, split, -⟩ := List.lookup_eq_some_iff.mp ofName
  obtain ⟨fields, more, within, -⟩ := List.lookup_eq_some_iff.mp ofKey
  exact plain (name, keys) (by simp [split]) (key, default) (by simp [within])

/-- What a text is read as depends on the type of the value before, and on nothing else of it. -/
theorem coerce_eq_of_typeName {text : String} {like other : Json} (same : like.typeName = other.typeName) :
    coerce text like = coerce text other := by
  cases like <;> cases other <;> first | (simp [Json.typeName] at same; done) | rfl

/-- A variable that spells a value of the default's type decides the value of its key, whatever the file
gives. -/
theorem valueAfter_of_variable {v : Json} {text : String} (known : defaults.value? name key = some default)
    (heard : isFileOnly name key = false) (apart : ¬ TruthForNumber written name key)
    (set : host.valueOf? (variableName name key) = some text) (spells : coerce text default = .ok v) :
    valueAfter host written name key default = v := by
  have kept : (fromFile (written.bind (given? · name key)) default).typeName = default.typeName :=
    typeName_fromFile (noTruth_of_default known apart)
  have read : coerce text (fromFile (written.bind (given? · name key)) default) = .ok v :=
    (coerce_eq_of_typeName kept).trans spells
  simp [valueAfter, fromVariable, heard, set, read, Except.toOption]

/-- The values of a configuration go by the types of the defaults. -/
structure GoesByTypes (host : Host) (written : Option Json) (c : Config) : Prop where
  /-- Each value is of the type of its default. -/
  ofType : ∀ name key, ¬ TruthForNumber written name key →
    (c.value? name key).map Json.typeName = (defaults.value? name key).map Json.typeName
  /-- A variable that spells a value of the default's type decides. -/
  ofVariable : ∀ name key default text v, defaults.value? name key = some default →
    isFileOnly name key = false → ¬ TruthForNumber written name key →
    host.valueOf? (variableName name key) = some text → coerce text default = .ok v → c.value? name key = some v
  /-- Where no variable counts, the file decides. -/
  ofFile : ∀ name key, isFileOnly name key = true →
    c.value? name key = (defaults.value? name key).map (fromFile (written.bind (given? · name key)))

theorem goesByTypes_layered : GoesByTypes host written (layered host written) where
  ofType name key apart := by
    rw [value?_layered]
    cases known : defaults.value? name key with
    | none => rfl
    | some default =>
      exact congrArg some (typeName_valueAfter (typeName_of_default known) (noTruth_of_default known apart))
  ofVariable name key default text v known heard apart set spells := by
    rw [value?_layered, known, Option.map_some, valueAfter_of_variable known heard apart set spells]
  ofFile name key fileOnly := by
    rw [value?_layered]
    congr 1
    funext default
    rw [valueAfter, fromVariable, if_pos fileOnly]

/-- A configuration that is loaded goes by the types of the defaults, whatever stands in the file. -/
theorem types_of_load {c : Config} {log : List LogRecord} (loaded : load host t root = .ok (c, log)) :
    (∃ written, FileGives host t root written) ∧
      ∀ written, FileGives host t root written → GoesByTypes host written c := by
  refine ⟨gives_of_load loaded, fun written gives => ?_⟩
  obtain ⟨log', loaded'⟩ := load_eq gives
  cases loaded.symm.trans loaded'
  exact goesByTypes_layered

/-! ### Files that give numbers and truth values -/

/-- What a file gives is what is read in it. -/
theorem given?_of_read {bytes : List UInt8} {text : String} {document : Json}
    (gives : FileGives host t root written) (there : t.read host.cwd (filePath root) = .ok bytes)
    (decoded : Text.Utf8.decode bytes = .ok text) (read : Json.read host.deepest text = .ok document) :
    written.bind (given? · name key) = (document.get? name).bind (·.get? key) := by
  cases gives with
  | unread failed => simp [there] at failed
  | malformed read' decoded' noDocument =>
    cases there.symm.trans read'
    cases decoded.symm.trans decoded'
    obtain ⟨written, spelled, -⟩ := Json.read_ok_iff.mp read
    exact absurd spelled (noDocument written)
  | document read' decoded' spelled =>
    cases there.symm.trans read'
    cases decoded.symm.trans decoded'
    cases read.symm.trans (Json.read_ok_iff.mpr ⟨_, spelled, rfl⟩)
    exact given?_eq _

/-- A file with the number of seconds after which a program is stopped. -/
def patientText : String := "\x7b\"runtime\":\x7b\"timeout\":30\x7d\x7d"

/-- The number that the variable spells counts, and the list of the defaults stays one. -/
theorem types_of_patient :
    ∃ c log, load sampleHost (treeWith (Text.Utf8.encode patientText)) .here = .ok (c, log) ∧
      c.value? "runtime" "timeout" = some (.int 600) ∧
      (c.value? "dialyzer" "warnings").map Json.typeName = some "list" := by
  have there : (treeWith (Text.Utf8.encode patientText)).read sampleHost.cwd (filePath .here) =
      .ok (Text.Utf8.encode patientText) := by decide +kernel
  have decoded : Text.Utf8.decode (Text.Utf8.encode patientText) = .ok patientText := by decide +kernel
  have number : (Json.read sampleHost.deepest patientText).toOption.map (fun document =>
      ((document.get? "runtime").bind (·.get? "timeout")).map Json.typeName) = some (some "int") := by decide +kernel
  cases read : Json.read sampleHost.deepest patientText with
  | error fault => simp [read, Except.toOption] at number
  | ok document =>
    simp only [read, Except.toOption, Option.map_some, Option.some.injEq] at number
    obtain ⟨written₀, spelled, -⟩ := Json.read_ok_iff.mp read
    obtain ⟨log, loaded⟩ := load_eq (.document there decoded spelled)
    obtain ⟨⟨written, gives⟩, types⟩ := types_of_load loaded
    have goes := types written gives
    refine ⟨_, log, loaded, goes.ofVariable _ _ (.int 0) "600" (.int 600) rfl rfl ?_ (by decide +kernel) rfl,
      goes.ofType "dialyzer" "warnings" fun truth => absurd truth.1 (by decide)⟩
    rintro ⟨-, b, truth⟩
    rw [given?_of_read gives there decoded read] at truth
    simp [truth, Json.typeName] at number

/-- A machine with a variable for the applications of a project. -/
def appsHost : Host where
  cwd := "/w"
  home := "/h"
  users := []
  environment := [("PLTSYNC_PROJECT_APPS", "myapp")]

/-- A truth value stands for a number after all, and the variable of a structured value is not heard. -/
theorem types_of_truth_and_structure :
    (¬ ∀ {host : Host} {t : FileTree} {root : Path} {c : Config} {log : List LogRecord},
      load host t root = .ok (c, log) → ∀ name key,
        (c.value? name key).map Json.typeName = (defaults.value? name key).map Json.typeName) ∧
    ¬ ∀ {host : Host} {t : FileTree} {root : Path} {c : Config} {log : List LogRecord},
      load host t root = .ok (c, log) → ∀ name key default text v, defaults.value? name key = some default →
        host.valueOf? (variableName name key) = some text → coerce text default = .ok v →
        c.value? name key = some v := by
  constructor
  · intro law
    have truth : (load sampleHost sampleTree .here).toOption.map
        (fun r => (r.1.value? "runtime" "timeout").map Json.typeName) = some (some "bool") := by decide +kernel
    cases loaded : load sampleHost sampleTree .here with
    | error e => simp [loaded, Except.toOption] at truth
    | ok r =>
      have number := law loaded "runtime" "timeout"
      simp only [loaded, Except.toOption, Option.map_some, Option.some.injEq] at truth
      rw [truth] at number
      exact absurd number (by decide)
  · intro law
    have absent : bareTree.present appsHost.cwd (filePath .here) = .ok false := by decide +kernel
    obtain ⟨log, loaded⟩ := load_of_absent absent
    have heard := law loaded "project" "apps" (.arr []) "myapp" (.arr [.str "myapp"]) rfl (by decide +kernel) rfl
    have kept : (layered appsHost none).value? "project" "apps" = some (.arr []) := value?_layered none
    simp [kept] at heard

end PltKeeper.Config
