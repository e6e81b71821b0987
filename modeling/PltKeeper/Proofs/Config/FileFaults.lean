import PltKeeper.Proofs.Config.Layering
import PltKeeper.Proofs.Json.Limits

/-! Configuration files without an object in them. Bytes that are a text within the reader's limits are as
good as no file. Others are no report but a failure: bytes that are no text, and texts in which a number is
too long or values are nested too deeply. -/
namespace PltKeeper.Config

variable {host : Host} {t t' : FileTree} {root : Path} {bytes : List UInt8} {text : String}

/-! ## The states of the file in which nothing is loaded -/

/-- What stands in the configuration file cannot be taken for a document or for anything else, and the
failure that says so. -/
inductive FileFails (host : Host) (t : FileTree) (root : Path) : Failure → Prop
  | notUtf8 {bytes : List UInt8} {fault : Text.Utf8.Fault} (read : t.read host.cwd (filePath root) = .ok bytes)
      (undecoded : Text.Utf8.decode bytes = .error fault) : FileFails host t root (.notUtf8 fault)
  | numberTooLong {bytes : List UInt8} {text : String} {digits : Nat}
      (read : t.read host.cwd (filePath root) = .ok bytes) (decoded : Text.Utf8.decode bytes = .ok text)
      (long : Json.read host.deepest text = .error (.numberTooLong digits)) :
    FileFails host t root (.badValue ((Text.NumeralFault.tooLong digits).message text))
  | tooDeep {bytes : List UInt8} {text : String} {isObject : Bool}
      (read : t.read host.cwd (filePath root) = .ok bytes) (decoded : Text.Utf8.decode bytes = .ok text)
      (deep : Json.read host.deepest text = .error (.tooDeep isObject)) : FileFails host t root (.tooDeep isObject)

/-- Each failure of the file is the failure of loading it. -/
theorem load_of_fails {e : Failure} (fails : FileFails host t root e) : load host t root = .error e := by
  have failed : readFile host t root = .error e := by
    cases fails with
    | notUtf8 read undecoded => simp only [readFile_of_read read, undecoded]
    | numberTooLong read decoded long => simp only [readFile_of_read read, decoded, long]
    | tooDeep read decoded deep => simp only [readFile_of_read read, decoded, deep]
  rw [load, failed]
  rfl

/-- The file gives something or fails. -/
theorem gives_or_fails (host : Host) (t : FileTree) (root : Path) :
    (∃ written, FileGives host t root written) ∨ ∃ e, FileFails host t root e := by
  cases read : t.read host.cwd (filePath root) with
  | error e => exact .inl ⟨none, .unread read⟩
  | ok bytes =>
    cases decoded : Text.Utf8.decode bytes with
    | error fault => exact .inr ⟨_, .notUtf8 read decoded⟩
    | ok text =>
      cases spelled : Json.read host.deepest text with
      | ok value =>
        obtain ⟨written, isDocument, -⟩ := Json.read_ok_iff.mp spelled
        exact .inl ⟨some written, .document read decoded isDocument⟩
      | error fault =>
        cases fault with
        | malformed =>
          have noDocument (written : Json) : ¬ Json.IsDocument host.deepest text written := fun isDocument => by
            have := Json.read_ok_iff.mpr ⟨written, isDocument, rfl⟩
            simp [this] at spelled
          exact .inl ⟨none, .malformed read decoded noDocument (by simp [spelled])⟩
        | numberTooLong digits => exact .inr ⟨_, .numberTooLong read decoded spelled⟩
        | tooDeep isObject => exact .inr ⟨_, .tooDeep read decoded spelled⟩

/-- Where a configuration is loaded, the file gives a document or nothing. -/
theorem gives_of_load {r : Config × List LogRecord} (loaded : load host t root = .ok r) :
    ∃ written, FileGives host t root written := by
  rcases gives_or_fails host t root with gives | ⟨e, fails⟩
  · exact gives
  · rw [load_of_fails fails] at loaded
    cases loaded

theorem load_error_iff {e : Failure} : load host t root = .error e ↔ FileFails host t root e := by
  refine ⟨fun failed => ?_, load_of_fails⟩
  rcases gives_or_fails host t root with ⟨written, gives⟩ | ⟨e', fails⟩
  · obtain ⟨log, loaded⟩ := load_eq gives
    rw [loaded] at failed
    cases failed
  · rw [load_of_fails fails] at failed
    cases failed
    exact fails

/-! ## Bytes without an object -/

/-- The bytes are the text of an object. -/
def IsObject (host : Host) (bytes : List UInt8) : Prop :=
  ∃ text members, Text.Utf8.decode bytes = .ok text ∧ Json.IsDocument host.deepest text (.obj members)

/-- The bytes are a text in which no number is too long and nothing is nested too deeply for the reader. -/
def WithinLimits (host : Host) (bytes : List UInt8) : Prop :=
  ∃ text, Text.Utf8.decode bytes = .ok text ∧ ∀ fault, Json.read host.deepest text = .error fault → fault = .malformed

/-- A document that is no object gives nothing to any key. -/
theorem layered_of_not_object {written : Json} (other : ∀ members, written ≠ .obj members) :
    layered host (some written) = layered host none := by
  have nothing (name key : String) : given? written name key = none := by
    cases written with
    | obj members => exact absurd rfl (other members)
    | _ => rfl
  simp only [layered, valueAfter, Option.bind_some, nothing, Option.bind_none]

/-- Where there is no file, every key has its default or what its variable spells. -/
theorem load_of_absent (absent : t.present host.cwd (filePath root) = .ok false) :
    ∃ log, load host t root = .ok (layered host none, log) :=
  load_of_taken (.inl (by simp [readFile, absent, bind, Except.bind, pure, Except.pure]))

/-- Where bytes stand in the file, their limits decide whether it gives anything. -/
theorem gives_iff_withinLimits (there : t.read host.cwd (filePath root) = .ok bytes) :
    (∃ written, FileGives host t root written) ↔ WithinLimits host bytes := by
  constructor
  · rintro ⟨written, gives⟩
    cases gives with
    | unread failed => simp [there] at failed
    | malformed read decoded _ withinLimits =>
      cases there.symm.trans read
      exact ⟨_, decoded, withinLimits⟩
    | document read decoded spelled =>
      cases there.symm.trans read
      exact ⟨_, decoded, by simp [Json.read_ok_iff.mpr ⟨_, spelled, rfl⟩]⟩
  · rintro ⟨text, decoded, malformed⟩
    refine (gives_or_fails host t root).resolve_right fun ⟨e, fails⟩ => ?_
    cases fails <;> simp_all

theorem withinLimits_of_length_le (decoded : Text.Utf8.decode bytes = .ok text)
    (flat : text.length ≤ host.deepest) (short : text.length ≤ Text.digitLimit) : WithinLimits host bytes :=
  ⟨text, decoded, fun _ failed => Json.malformed_of_length_le flat short failed⟩

theorem layered_of_no_object {written : Option Json} (there : t.read host.cwd (filePath root) = .ok bytes)
    (noObject : ¬ IsObject host bytes) (gives : FileGives host t root written) :
    layered host written = layered host none := by
  cases gives with
  | unread | malformed => rfl
  | @document bytes' text written read decoded spelled =>
    cases there.symm.trans read
    refine layered_of_not_object fun members isObject => noObject ⟨text, members, decoded, isObject ▸ spelled⟩

/-- A file without an object counts as no file, whatever the variables say, if it holds a text within the
limits of the reader; a text of few characters is. Otherwise no configuration is loaded, and the failure says
what is wrong with the file. -/
theorem load_without_object (there : t.read host.cwd (filePath root) = .ok bytes) (noObject : ¬ IsObject host bytes)
    (absent : t'.present host.cwd (filePath root) = .ok false) :
    ∃ c log', load host t' root = .ok (c, log') ∧
      ((∃ log, load host t root = .ok (c, log)) ↔ WithinLimits host bytes) ∧
      (∀ e, load host t root = .error e ↔ FileFails host t root e) ∧
      ∀ text, Text.Utf8.decode bytes = .ok text → text.length ≤ host.deepest →
        text.length ≤ Text.digitLimit → WithinLimits host bytes := by
  obtain ⟨log', loaded'⟩ := load_of_absent absent
  refine ⟨layered host none, log', loaded', ?_, fun e => load_error_iff, fun _ => withinLimits_of_length_le⟩
  rw [← gives_iff_withinLimits there]
  constructor
  · rintro ⟨log, loaded⟩
    exact gives_of_load loaded
  · rintro ⟨written, gives⟩
    rw [← layered_of_no_object there noObject gives]
    exact load_eq gives

/-! ### Files with other things in them -/

/-- A project with these bytes for a configuration file. -/
def treeWith (bytes : List UInt8) : FileTree where
  entries := [(["w"], .dir), (["w", ".pf"], .dir), (["w", ".pf", "config.json"], .file bytes)]

/-- A project without one. -/
def bareTree : FileTree where
  entries := [(["w"], .dir)]

theorem not_isObject_of_error (decoded : Text.Utf8.decode bytes = .ok text) {fault : Json.Fault}
    (failed : Json.read host.deepest text = .error fault) : ¬ IsObject host bytes := by
  rintro ⟨text', members, decoded', spelled⟩
  cases decoded.symm.trans decoded'
  simp [Json.read_ok_iff.mpr ⟨_, spelled, rfl⟩] at failed

/-- A list that is cut short leaves the default to the variable. -/
theorem load_of_cutShort :
    ∃ c log log', load sampleHost (treeWith (Text.Utf8.encode "[1, 2")) .here = .ok (c, log) ∧
      load sampleHost bareTree .here = .ok (c, log') ∧
      (c.value? "runtime" "timeout").map Json.display = some "600" := by
  have decoded : Text.Utf8.decode (Text.Utf8.encode "[1, 2") = .ok "[1, 2" := by decide +kernel
  have noDocument : (Json.read sampleHost.deepest "[1, 2").isOk = false := by decide +kernel
  cases failed : Json.read sampleHost.deepest "[1, 2" with
  | ok value => simp [failed, Except.isOk, Except.toBool] at noDocument
  | error fault =>
    have there : (treeWith (Text.Utf8.encode "[1, 2")).read sampleHost.cwd (filePath .here) =
        .ok (Text.Utf8.encode "[1, 2") := by decide +kernel
    have absent : bareTree.present sampleHost.cwd (filePath .here) = .ok false := by decide +kernel
    obtain ⟨c, log', loaded', same, -, few⟩ :=
      load_without_object there (not_isObject_of_error decoded failed) absent
    obtain ⟨log, loaded⟩ := same.mpr (few _ decoded (by decide) (by decide))
    have value : (load sampleHost bareTree .here).toOption.map
        (fun r => (r.1.value? "runtime" "timeout").map Json.display) = some (some "600") := by decide +kernel
    simp only [loaded', Except.toOption, Option.map_some, Option.some.injEq] at value
    exact ⟨c, log, log', loaded, loaded', value⟩

/-- A single byte that begins no character stops the program. -/
theorem load_of_no_text :
    ¬ ∀ {host : Host} {t t' : FileTree} {root : Path} {bytes : List UInt8} {c : Config} {log' : List LogRecord},
      t.read host.cwd (filePath root) = .ok bytes → ¬ IsObject host bytes →
      t'.present host.cwd (filePath root) = .ok false → load host t' root = .ok (c, log') →
      ∃ log, load host t root = .ok (c, log) := by
  intro law
  have absent : bareTree.present sampleHost.cwd (filePath .here) = .ok false := by decide +kernel
  have there : (treeWith [0xff]).read sampleHost.cwd (filePath .here) = .ok [0xff] := by decide +kernel
  have undecoded : Text.Utf8.decode [0xff] = .error ⟨0, [0xff], .badStart⟩ := by decide +kernel
  have noObject : ¬ IsObject sampleHost [0xff] := by
    rintro ⟨text, members, decoded, -⟩
    simp [undecoded] at decoded
  obtain ⟨log', loaded'⟩ := load_of_absent absent
  obtain ⟨log, loaded⟩ := law there noObject absent loaded'
  rw [load_of_fails (.notUtf8 there undecoded)] at loaded
  cases loaded

end PltKeeper.Config
