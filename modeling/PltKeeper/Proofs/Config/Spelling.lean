import PltKeeper.Proofs.Config.Typing
import PltKeeper.Proofs.Text.Numeral
import PltKeeper.Proofs.Traversal

/-! The two places in which a value can be set. What is set for a key in the file can be set just as well in its
variable: the text that spells a value is read as this value, whichever of the types of the defaults it has, and
then nothing tells the configurations apart. -/
namespace PltKeeper.Config

open Text

variable {host host' : Host} {t t' : FileTree} {root root' : Path} {name key text item : String}
  {items pieces : List String} {v default : Json} {written : Json}

/-! ## Texts that spell values -/

/-- A text in which an item of a list stands, perhaps with white space around it. The item has neither a comma
in it nor white space at its ends. -/
structure Pads (item text : String) : Prop where
  nonempty : item ≠ ""
  noComma : ',' ∉ item.toList
  bare : strip item.toList = item.toList
  around : ∃ front back, AllBlank front ∧ AllBlank back ∧ text.toList = front ++ (item.toList ++ back)

/-- The texts by which a variable gives a value. -/
inductive SpelledBy : Json → String → Prop
  | bool (b : Bool) : SpelledBy (.bool b) (if b then "true" else "false")
  | int {n : Int} (short : (Nat.toDigits 10 n.natAbs).length ≤ digitLimit) : SpelledBy (.int n) (toString n)
  | str (s : String) : SpelledBy (.str s) s
  | list {items pieces : List String} (padded : List.Forall₂ Pads items pieces) :
    SpelledBy (texts items) (",".intercalate pieces)

theorem Pads.strip_eq (pads : Pads item text) : strip text.toList = item.toList := by
  obtain ⟨front, back, blankFront, blankBack, whole⟩ := pads.around
  rw [whole, strip_append blankFront, strip_append_right blankBack, pads.bare]

theorem Pads.noComma_text (pads : Pads item text) : ',' ∉ text.toList := by
  obtain ⟨front, back, blankFront, blankBack, whole⟩ := pads.around
  have visible : isBlank ',' = false := by decide
  rw [whole, List.mem_append, List.mem_append]
  rintro (inFront | inItem | inBack)
  · exact nomatch visible.symm.trans (blankFront _ inFront)
  · exact pads.noComma inItem
  · exact nomatch visible.symm.trans (blankBack _ inBack)

/-- A list is read item by item. -/
theorem readList_joined (padded : List.Forall₂ Pads items pieces) : readList (",".intercalate pieces) = items := by
  have stripped : (pieces.map String.toList).map (fun text => String.ofList (strip text)) = items := by
    induction padded with
    | nil => rfl
    | cons pads _ ih => simp only [List.map_cons, pads.strip_eq, String.ofList_toList, ih]
  have kept : items.filter (· ≠ "") = items := List.filter_eq_self.mpr fun item member => by
    obtain ⟨_, -, pads⟩ := (mem_of_forall₂ padded).1 item member
    simpa using pads.nonempty
  cases pieces with
  | nil =>
    -- The empty text is cut into one piece, which does not count.
    cases padded
    rfl
  | cons first rest =>
    have noComma : ∀ text ∈ (first :: rest).map String.toList, ',' ∉ text := by
      intro _ member
      obtain ⟨piece, inPieces, rfl⟩ := List.mem_map.mp member
      obtain ⟨_, -, pads⟩ := (mem_of_forall₂ padded).2 piece inPieces
      exact pads.noComma_text
    have cut : (",".intercalate (first :: rest)).toList.splitOn ',' = (first :: rest).map String.toList := by
      rw [String.toList_intercalate]
      exact List.splitOn_intercalate ',' noComma (by simp)
    rw [readList, cut, stripped, kept]

/-- A value is what its texts are read as. -/
theorem coerce_of_spelled (spelled : SpelledBy v text) : coerce text v = .ok v := by
  cases spelled with
  | bool b =>
    have read : readBool (if b then "true" else "false") = .ok b := by cases b <;> decide +kernel
    rw [coerce, read]
    rfl
  | int short =>
    rw [coerce, readInt_toString short]
    rfl
  | str s => rfl
  | list padded =>
    rw [texts, coerce, readList_joined padded]

/-! ## One key set -/

/-- The configuration with this value in place of the one that a key has. -/
def withValue (c : Config) (name key : String) (v : Json) : Config :=
  c.map fun s => (s.1, s.2.map fun f => (f.1, if s.1 = name ∧ f.1 = key then v else f.2))

/-- Of the known keys the document gives a value to this one only. -/
def GivesOnly (written : Json) (name key : String) (v : Json) : Prop :=
  ∀ s ∈ defaults, ∀ f ∈ s.2, given? written s.1 f.1 = if s.1 = name ∧ f.1 = key then some v else none

/-- Of the variables of the known keys that of this one only is set. -/
def SetsOnly (host : Host) (name key text : String) : Prop :=
  ∀ s ∈ defaults, ∀ f ∈ s.2,
    host.valueOf? (variableName s.1 f.1) = if s.1 = name ∧ f.1 = key then some text else none

/-- None of the variables of the known keys is set. -/
def SetsNone (host : Host) : Prop := ∀ s ∈ defaults, ∀ f ∈ s.2, host.valueOf? (variableName s.1 f.1) = none

instance (host : Host) (name key text : String) : Decidable (SetsOnly host name key text) :=
  inferInstanceAs (Decidable (∀ s ∈ defaults, ∀ f ∈ s.2, _ = _))

instance (host : Host) : Decidable (SetsNone host) :=
  inferInstanceAs (Decidable (∀ s ∈ defaults, ∀ f ∈ s.2, _ = _))

/-- A document in which nothing but the value of one key stands gives a value to no other. -/
theorem givesOnly_of_settled (plain : written.settled = .obj [(name, .obj [(key, v)])]) :
    GivesOnly written name key v := by
  intro s _ f _
  rw [given?_eq, plain]
  by_cases inSection : s.1 = name
  · by_cases here : f.1 = key
    · simp [inSection, here, Json.get?, Json.field?]
    · have apart : (f.1 == key) = false := by simpa using here
      simp [inSection, here, Json.get?, Json.field?, List.lookup_cons, apart]
  · have apart : (s.1 == name) = false := by simpa using inSection
    simp [inSection, Json.get?, Json.field?, List.lookup_cons, apart]

theorem eq_of_known {s : String × ConfigSection} {f : String × Json} (known : defaults.value? name key = some default)
    (inDefaults : s ∈ defaults) (inSection : f ∈ s.2) (here : s.1 = name ∧ f.1 = key) : f.2 = default := by
  have sections : (defaults.map (·.1)).Nodup := by decide
  rw [← here.1, ← here.2, value?, Json.lookup_of_mem sections inDefaults] at known
  exact Option.some.inj ((Json.lookup_of_mem (nodup_defaults s inDefaults) inSection).symm.trans known)

/-- The configuration that comes of a value for each key. -/
theorem layered_eq_withValue {given : Option Json}
    (values : ∀ s ∈ defaults, ∀ f ∈ s.2,
      valueAfter host given s.1 f.1 f.2 = if s.1 = name ∧ f.1 = key then v else f.2) :
    layered host given = defaults.withValue name key v :=
  List.map_congr_left fun s inDefaults => congrArg (Prod.mk s.1) <|
    List.map_congr_left fun f inSection => congrArg (Prod.mk f.1) (values s inDefaults f inSection)

/-- What the file gives to one key only. -/
theorem layered_of_file (known : defaults.value? name key = some default) (ofType : v.typeName = default.typeName)
    (only : GivesOnly written name key v) (silent : SetsNone host) :
    layered host (some written) = defaults.withValue name key v := by
  refine layered_eq_withValue fun s inDefaults f inSection => ?_
  have unset : fromVariable host s.1 f.1 = id := by
    funext value
    rw [fromVariable, silent s inDefaults f inSection]
    exact ite_self _
  rw [valueAfter, unset, Option.bind_some, only s inDefaults f inSection]
  split
  · rename_i here
    have same : f.2 = default := eq_of_known known inDefaults inSection here
    rw [fromFile, same, if_pos (.inl ofType), id]
  · rfl

/-- What the variable of one key only gives. -/
theorem layered_of_variable (known : defaults.value? name key = some default)
    (heard : isFileOnly name key = false) (ofType : v.typeName = default.typeName) (spelled : SpelledBy v text)
    (set : SetsOnly host name key text) : layered host none = defaults.withValue name key v := by
  refine layered_eq_withValue fun s inDefaults f inSection => ?_
  have value := set s inDefaults f inSection
  split at value
  · rename_i here
    have same : f.2 = default := eq_of_known known inDefaults inSection here
    have read : coerce text f.2 = .ok v := by
      rw [same, ← coerce_eq_of_typeName ofType, coerce_of_spelled spelled]
    rw [if_pos here, valueAfter, Option.bind_none, fromFile, fromVariable, here.1, here.2, heard, ← here.1, ← here.2,
      value]
    simp [read, Except.toOption]
  · rename_i other
    rw [if_neg other, valueAfter, Option.bind_none, fromFile, fromVariable, value]
    exact ite_self _

/-- Whether the file alone gives a value to a key or its variable alone does so, the configuration that is loaded
is the same: the defaults with the value in their place. -/
theorem file_as_variable (known : defaults.value? name key = some default) (heard : isFileOnly name key = false)
    (ofType : v.typeName = default.typeName) (spelled : SpelledBy v text)
    (gives : FileGives host t root (some written)) (only : GivesOnly written name key v) (silent : SetsNone host)
    (absent : t'.present host'.cwd (filePath root') = .ok false) (set : SetsOnly host' name key text) :
    ∃ log log', load host t root = .ok (defaults.withValue name key v, log) ∧
      load host' t' root' = .ok (defaults.withValue name key v, log') := by
  obtain ⟨log, loaded⟩ := load_eq gives
  obtain ⟨log', loaded'⟩ := load_of_absent absent
  rw [layered_of_file known ofType only silent] at loaded
  rw [layered_of_variable known heard ofType spelled set] at loaded'
  exact ⟨log, log', loaded, loaded'⟩

/-! ### A list in both places -/

/-- A file with the further applications of a PLT. -/
def listingText : String := "\x7b\"dialyzer\":\x7b\"plt_extra_apps\":[\"ssl\",\"two words\"]\x7d\x7d"

/-- A machine on which these variables are set. -/
def hostWith (environment : List (String × String)) : Host where
  cwd := "/w"
  home := "/h"
  users := []
  environment := environment

/-- The white space around an item does not count, that within it does. -/
theorem file_as_variable_of_list :
    ∃ log log', load (hostWith []) (treeWith (Text.Utf8.encode listingText)) .here =
        .ok (defaults.withValue "dialyzer" "plt_extra_apps" (texts ["ssl", "two words"]), log) ∧
      load (hostWith [("PLTSYNC_DIALYZER_PLT_EXTRA_APPS", " ssl\t,two words ")]) bareTree .here =
        .ok (defaults.withValue "dialyzer" "plt_extra_apps" (texts ["ssl", "two words"]), log') := by
  have there : (treeWith (Text.Utf8.encode listingText)).read (hostWith []).cwd (filePath .here) =
      .ok (Text.Utf8.encode listingText) := by decide +kernel
  have read : Json.read (hostWith []).deepest listingText =
      .ok (.obj [("dialyzer", .obj [("plt_extra_apps", texts ["ssl", "two words"])])]) := by cbv
  obtain ⟨written, spelled, plain⟩ := Json.read_ok_iff.mp read
  have padded : List.Forall₂ Pads ["ssl", "two words"] [" ssl\t", "two words "] :=
    .cons ⟨by decide, by decide, by decide +kernel, [' '], ['\t'], by decide, by decide, by decide⟩ <|
      .cons ⟨by decide, by decide, by decide +kernel, [], [' '], by decide, by decide, by decide⟩ .nil
  have known : defaults.value? "dialyzer" "plt_extra_apps" = some (.arr []) := rfl
  exact file_as_variable known rfl rfl (.list padded) (.document there (by decide +kernel) spelled)
    (givesOnly_of_settled plain) (by decide +kernel) (by decide +kernel) (by decide +kernel)

end PltKeeper.Config
