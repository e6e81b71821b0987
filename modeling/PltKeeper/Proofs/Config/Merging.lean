import PltKeeper.Proofs.Json.Grammar
import PltKeeper.Config.Layers

/-! The layers of a configuration, each key on its own. What the file and the environment say of one key
decides its value; the merge, which walks through whole documents, gives every key that value. -/
namespace PltKeeper.Config

variable {host : Host} {t : FileTree} {root : Path} {name key : String}

/-! ## What the layers say of one key -/

/-- Whether a value is of the type of another; a truth value is of the type of whole numbers too. -/
def IsInstance (value like : Json) : Prop :=
  value.typeName = like.typeName ∨ value.typeName = "bool" ∧ like.typeName = "int"

instance (value like : Json) : Decidable (IsInstance value like) := inferInstanceAs (Decidable (_ ∨ _))

theorem fits_iff_isInstance {value like : Json} : fits value like = true ↔ IsInstance value like := by
  cases value <;> cases like <;> simp [fits, IsInstance, Json.typeName]

/-- The value that a document gives to a key of a section: the last one written, in the section written
last. It gives none if it or the section is no object. -/
def given? (written : Json) (name key : String) : Option Json :=
  ((written.last? name).bind (·.last? key)).map Json.settled

/-- The value of a key after the file: what the file gives if it is of the default's type. -/
def fromFile (given : Option Json) (default : Json) : Json :=
  match given with
  | some value => if IsInstance value default then value else default
  | none => default

/-- The value of a key after its variable: what the text of the variable spells, if it spells a value of
the type that the key's value has. -/
def fromVariable (host : Host) (name key : String) (value : Json) : Json :=
  if isFileOnly name key then value
  else
    match host.valueOf? (variableName name key) with
    | some text => (coerce text value).toOption.getD value
    | none => value

/-- The value of a key after all layers. -/
def valueAfter (host : Host) (written : Option Json) (name key : String) (default : Json) : Json :=
  fromVariable host name key (fromFile (written.bind (given? · name key)) default)

/-- The configuration in which every key has its value after all layers. -/
def layered (host : Host) (written : Option Json) : Config :=
  defaults.map fun s => (s.1, s.2.map fun f => (f.1, valueAfter host written s.1 f.1 f.2))

/-! ## The states of the file -/

/-- What stands in the configuration file of a project: a document as it is written, or nothing of use,
since it is not there, cannot be read or is not written as a document. Texts with a number too long or
with values nested too deeply are neither. -/
inductive FileGives (host : Host) (t : FileTree) (root : Path) : Option Json → Prop
  | unread {e : Failure} (failed : t.read host.cwd (filePath root) = .error e) : FileGives host t root none
  | malformed {bytes : List UInt8} {text : String} (read : t.read host.cwd (filePath root) = .ok bytes)
      (decoded : Text.Utf8.decode bytes = .ok text) (noDocument : ∀ written, ¬ Json.IsDocument host.deepest text written)
      (withinLimits : ∀ fault, Json.read host.deepest text = .error fault → fault = .malformed) :
    FileGives host t root none
  | document {bytes : List UInt8} {text : String} {written : Json}
      (read : t.read host.cwd (filePath root) = .ok bytes) (decoded : Text.Utf8.decode bytes = .ok text)
      (spelled : Json.IsDocument host.deepest text written) :
    FileGives host t root (some written)

/-- The file is taken for what stands in it: for the document as it is understood, or for an empty one, or
it is no more than reported. -/
def TakenFor (outcome : Except Failure (Except (List LogRecord) Json)) : Option Json → Prop
  | some written => outcome = .ok (.ok written.settled)
  | none => outcome = .ok (.ok (.obj [])) ∨ ∃ log, outcome = .ok (.error log)

theorem readFile_of_unread {e : Failure} (failed : t.read host.cwd (filePath root) = .error e) :
    TakenFor (readFile host t root) none := by
  unfold readFile FileTree.present FileTree.test TakenFor
  unfold FileTree.read at failed ⊢
  cases found : t.find host.cwd (filePath root) with
  | ok entry =>
    cases entry with
    | file bytes => simp [found, bind, Except.bind, pure, Except.pure, Except.mapError] at failed
    | dir => simp [found, bind, Except.bind, pure, Except.pure, Except.mapError, Refusal.failure]
  | error r => cases r <;> simp [found, bind, Except.bind, pure, Except.pure, Refusal.failure]

/-- What comes of a file that can be read: its document, a report that it is not written as one, or a
failure of a kind of its own. -/
theorem readFile_of_read {bytes : List UInt8} (read : t.read host.cwd (filePath root) = .ok bytes) :
    readFile host t root =
      match Text.Utf8.decode bytes with
      | .error fault => .error (.notUtf8 fault)
      | .ok text =>
        match Json.read host.deepest text with
        | .ok document => .ok (.ok document)
        | .error .malformed => .ok (.error (unusableFile (filePath root) "not a document"))
        | .error (.numberTooLong digits) => .error (.badValue ((Text.NumeralFault.tooLong digits).message text))
        | .error (.tooDeep isObject) => .error (.tooDeep isObject) := by
  have there : t.present host.cwd (filePath root) = .ok true := by
    unfold FileTree.read at read
    unfold FileTree.present FileTree.test
    cases found : t.find host.cwd (filePath root) with
    | ok entry => rfl
    | error r => simp [found, bind, Except.bind, Except.mapError] at read
  cases decoded : Text.Utf8.decode bytes with
  | error fault => simp [readFile, there, read, decoded, bind, Except.bind, pure, Except.pure, Except.mapError]
  | ok text =>
    cases spelled : Json.read host.deepest text with
    | ok document =>
      simp [readFile, there, read, decoded, spelled, bind, Except.bind, pure, Except.pure, Except.mapError]
    | error fault =>
      cases fault <;>
        simp [readFile, there, read, decoded, spelled, bind, Except.bind, pure, Except.pure, Except.mapError]

/-- Whatever stands in the file, reading it is no failure. -/
theorem readFile_of_gives {written : Option Json} (gives : FileGives host t root written) :
    TakenFor (readFile host t root) written := by
  cases gives with
  | unread failed => exact readFile_of_unread failed
  | @malformed bytes text read decoded noDocument withinLimits =>
    obtain ⟨fault, failed⟩ : ∃ fault, Json.read host.deepest text = .error fault := by
      cases outcome : Json.read host.deepest text with
      | error fault => exact ⟨fault, rfl⟩
      | ok value =>
        obtain ⟨written, spelled, -⟩ := Json.read_ok_iff.mp outcome
        exact absurd spelled (noDocument written)
    rw [withinLimits fault failed] at failed
    exact .inr ⟨unusableFile (filePath root) "not a document", by simp only [readFile_of_read read, decoded, failed]⟩
  | document read decoded spelled =>
    have understood := Json.read_ok_iff.mpr ⟨_, spelled, rfl⟩
    simp only [TakenFor, readFile_of_read read, decoded, understood]

/-! ## The file over the defaults -/

/-- The keys of a section with a document's fields over them, where these are of the values' types. -/
def withFields (fields : List (String × Json)) (keys : ConfigSection) : ConfigSection :=
  keys.map fun f => (f.1, fromFile (fields.lookup f.1) f.2)

theorem names_withFields {fields : List (String × Json)} {keys : ConfigSection} :
    (withFields fields keys).map (·.1) = keys.map (·.1) := by
  simp [withFields, Function.comp_def]

theorem withFields_eq_self {fields : List (String × Json)} {keys : ConfigSection}
    (kept : ∀ f ∈ keys, fromFile (fields.lookup f.1) f.2 = f.2) : withFields fields keys = keys :=
  calc withFields fields keys
    _ = keys.map id := List.map_congr_left fun f member => by rw [kept f member]; rfl
    _ = keys := List.map_id keys

theorem fromFile_singleton {f : String × Json} {value : Json} :
    fromFile ([(key, value)].lookup f.1) f.2 = if f.1 = key ∧ IsInstance value f.2 then value else f.2 := by
  by_cases same : f.1 = key
  · simp [same, fromFile]
  · have apart : (f.1 == key) = false := by simpa using same
    simp [List.lookup_cons, apart, fromFile, same]

/-- Fields of different names go over a section one after the other. -/
theorem withFields_cons {value : Json} {rest : List (String × Json)} {keys : ConfigSection}
    (new : key ∉ rest.map (·.1)) :
    withFields rest (withFields [(key, value)] keys) = withFields ((key, value) :: rest) keys := by
  simp only [withFields, List.map_map]
  refine List.map_congr_left fun f _ => ?_
  simp only [Function.comp_apply]
  by_cases same : f.1 = key
  · simp [same, Json.lookup_eq_none_iff_notMem.mpr new, fromFile]
  · have apart : (f.1 == key) = false := by simpa using same
    simp [List.lookup_cons, apart, fromFile]

theorem setKey_eq {value : Json} {keys : ConfigSection} (unique : (keys.map (·.1)).Nodup)
    (log : List LogRecord) : (setKey name (keys, log) (key, value)).1 = withFields [(key, value)] keys := by
  rw [setKey]
  cases found : keys.lookup key with
  | none =>
    have absent := Json.lookup_eq_none_iff_notMem.mp found
    refine (withFields_eq_self fun f member => ?_).symm
    have apart : f.1 ≠ key := fun same => absent (same ▸ List.mem_map_of_mem member)
    simp [fromFile_singleton, apart]
  | some current =>
    have known : key ∈ keys.map (·.1) := Json.lookup_isSome_iff_mem.mp (by simp [found])
    -- No name stands twice in the section, so the value found is the one that is replaced.
    have current_of {f : String × Json} (member : f ∈ keys) (same : f.1 = key) : f.2 = current := by
      have held := Json.lookup_of_mem unique (show (key, f.2) ∈ keys from same ▸ member)
      exact Option.some.inj (held.symm.trans found)
    simp only [fits_iff_isInstance]
    split
    · rename_i ofType
      rw [Json.putField_known known]
      refine List.map_congr_left fun f member => ?_
      rw [fromFile_singleton]
      by_cases same : f.1 = key
      · simp [same, current_of member same, ofType]
      · simp [same]
    · rename_i other
      refine (withFields_eq_self fun f member => ?_).symm
      rw [fromFile_singleton, if_neg]
      rintro ⟨same, ofType⟩
      exact other (current_of member same ▸ ofType)

/-- A section of a document goes over the defaults key by key. -/
theorem foldl_setKey_eq {fields : List (String × Json)} (once : (fields.map (·.1)).Nodup)
    {keys : ConfigSection} (unique : (keys.map (·.1)).Nodup) (log : List LogRecord) :
    (fields.foldl (setKey name) (keys, log)).1 = withFields fields keys := by
  -- The values in the section change as the fields come in; its names do not.
  induction fields generalizing keys log with
  | nil => exact (withFields_eq_self fun _ _ => rfl).symm
  | cons field rest ih =>
    obtain ⟨key, value⟩ := field
    rw [List.map_cons, List.nodup_cons] at once
    have step : (setKey name (keys, log) (key, value)).1 = withFields [(key, value)] keys := setKey_eq unique log
    have kept : ((withFields [(key, value)] keys).map (·.1)).Nodup := by rw [names_withFields]; exact unique
    rw [List.foldl_cons, ← withFields_cons once.1, ← step]
    exact ih once.2 (step ▸ kept) _

/-- What a document gives to a key is what it is understood to hold there. -/
theorem given?_eq (written : Json) :
    given? written name key = (written.settled.get? name).bind (·.get? key) := by
  rw [given?, Json.get?_settled]
  cases written.last? name with
  | none => rfl
  | some keys => exact (Json.get?_settled keys).symm

/-- A section of a document, read for its fields; one that is no object has none. -/
def fieldsOf (document : Json) (name : String) : List (String × Json) :=
  match document.get? name with
  | some (.obj fields) => fields
  | _ => []

theorem mergeFile_cons (document : Json) (keys : ConfigSection) (rest : Config) :
    (mergeFile document ((name, keys) :: rest)).1 =
      (name, ((fieldsOf document name).foldl (setKey name) (keys, [])).1) :: (mergeFile document rest).1 := by
  cases document with
  | obj fields =>
    rw [mergeFile.eq_def, fieldsOf, Json.get?]
    dsimp only
    cases Json.field? fields name with
    | none => rfl
    | some value => cases value <;> rfl
  | _ => rfl

theorem lookup_fieldsOf (written : Json) :
    (fieldsOf written.settled name).lookup key = given? written name key := by
  rw [given?_eq, fieldsOf]
  cases written.settled.get? name with
  | none => rfl
  | some value => cases value <;> rfl

theorem nodup_fieldsOf (written : Json) : ((fieldsOf written.settled name).map (·.1)).Nodup := by
  rw [fieldsOf, Json.get?_settled]
  cases written.last? name with
  | none => simp
  | some keys =>
    cases settled : keys.settled with
    | obj fields => simpa [settled] using Json.nodup_of_settled settled
    | _ => simp [settled]

/-- The document goes over the sections key by key. -/
theorem mergeFile_eq (written : Json) {c : Config} (unique : ∀ s ∈ c, (s.2.map (·.1)).Nodup) :
    (mergeFile written.settled c).1 =
      c.map fun s => (s.1, s.2.map fun f => (f.1, fromFile (given? written s.1 f.1) f.2)) := by
  induction c with
  | nil => rfl
  | cons s rest ih =>
    obtain ⟨name, keys⟩ := s
    rw [mergeFile_cons, ih fun s member => unique s (.tail _ member),
      foldl_setKey_eq (nodup_fieldsOf written) (unique (name, keys) (.head _))]
    simp only [withFields, lookup_fieldsOf, List.map_cons]

/-! ## The environment over the file -/

theorem overlayKey_eq (f : String × Json) : (overlayKey host name f).1 = (f.1, fromVariable host name f.1 f.2) := by
  obtain ⟨key, value⟩ := f
  rw [overlayKey, fromVariable]
  dsimp only
  split
  · rfl
  · cases host.valueOf? (variableName name key) with
    | none => rfl
    | some text => cases coerced : coerce text value <;> simp [coerced, Except.toOption]

theorem overlay_eq (c : Config) :
    (overlay host c).1 = c.map fun s => (s.1, s.2.map fun f => (f.1, fromVariable host s.1 f.1 f.2)) := by
  simp [overlay, overlaySection, overlayKey_eq, Function.comp_def]

/-! ## All layers -/

theorem nodup_defaults : ∀ s ∈ defaults, (s.2.map (·.1)).Nodup := by decide

theorem load_of_document {document : Json} (read : readFile host t root = .ok (.ok document)) :
    ∃ log, load host t root = .ok ((overlay host (mergeFile document defaults).1).1, log) :=
  ⟨_, by rw [load, read]; rfl⟩

theorem load_of_report {report : List LogRecord} (read : readFile host t root = .ok (.error report)) :
    ∃ log, load host t root = .ok ((overlay host defaults).1, log) :=
  ⟨_, by rw [load, read]; rfl⟩

theorem overlay_mergeFile (written : Json) :
    (overlay host (mergeFile written.settled defaults).1).1 = layered host (some written) := by
  simp [overlay_eq, mergeFile_eq written nodup_defaults, layered, valueAfter, Function.comp_def]

theorem overlay_defaults : (overlay host defaults).1 = layered host none := by
  simp [overlay_eq, layered, valueAfter, fromFile]

/-- An empty document gives nothing to any key. -/
theorem layered_empty : layered host (some (.obj [])) = layered host none := rfl

/-- A configuration is loaded from what the file is taken for. -/
theorem load_of_taken {written : Option Json} (taken : TakenFor (readFile host t root) written) :
    ∃ log, load host t root = .ok (layered host written, log) := by
  cases written with
  | some written =>
    rw [← overlay_mergeFile]
    exact load_of_document taken
  | none =>
    rcases taken with read | ⟨report, read⟩
    · rw [← layered_empty, ← overlay_mergeFile]
      exact load_of_document read
    · rw [← overlay_defaults]
      exact load_of_report read

/-- Whatever stands in the file, the configuration is loaded, and every key has the value that the layers
give it. -/
theorem load_eq {written : Option Json} (gives : FileGives host t root written) :
    ∃ log, load host t root = .ok (layered host written, log) :=
  load_of_taken (readFile_of_gives gives)

/-! ## One key of the configuration -/

/-- The value of a key. -/
def value? (c : Config) (name key : String) : Option Json := (c.lookup name).bind (·.lookup key)

theorem lookup_layered (written : Option Json) :
    (layered host written).lookup name =
      (defaults.lookup name).map fun keys => keys.map fun f => (f.1, valueAfter host written name f.1 f.2) :=
  Json.lookup_map fun name (keys : ConfigSection) => keys.map fun f => (f.1, valueAfter host written name f.1 f.2)

/-- A key has the value that the layers give to it alone. -/
theorem value?_layered (written : Option Json) :
    (layered host written).value? name key = (defaults.value? name key).map (valueAfter host written name key) := by
  rw [value?, value?, lookup_layered]
  cases defaults.lookup name with
  | none => rfl
  | some keys => exact Json.lookup_map (valueAfter host written name)

/-- The keys have variables of their own. -/
theorem nodup_variables :
    (defaults.flatMap fun s => s.2.map fun f => variableName s.1 f.1).Nodup := by decide +kernel

end PltKeeper.Config
