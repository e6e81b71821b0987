import PltKeeper.Backend.Dialyzer.Command
import PltKeeper.Proofs.Path.Canonical

/-! What is asked of dialyzer can be told from its arguments. The kind of the analysis stands in front and fixes
what comes after it, so whether a text is a flag, a path, a category or a file depends on the place where it
stands and never on how it looks. Only the PLT that dialyzer takes for its own is not among the arguments: it is
named in the environment. -/
namespace PltKeeper

/-- Wishes as a caller has them: a truth value, and categories that are texts. -/
structure Wishes.Plain (w : Wishes) : Prop where
  flag : ∃ b, w.getWarnings = .bool b
  categories : ∃ texts, w.warnings = .map Json.str texts

/-- The options for an analysis that was asked for, of any files against any PLT. -/
inductive Options.AskedFor : Options → Prop
  | mk {w : Wishes} {plt : Path} (a : Analysis) (files : List String) (plain : w.Plain) (proper : plt.Proper) :
    AskedFor (w.optionsFor a files plt)

namespace Dialyzer

variable {w : Wishes} {a : Analysis} {files categories : List String} {plt : Path} {o o' : Options}

/-! ## Reading arguments -/

/-- The analysis that the first argument selects. -/
def analysisOf (arguments : List String) : Analysis :=
  (Analysis.all.find? fun a => !(modeFlags a).isEmpty && (modeFlags a).isPrefixOf arguments).getD .successTyping

/-- How many arguments name the PLT: a flag and a path to read it, another two to write it. -/
def pathArguments (a : Analysis) : Nat := (if a = .build then 0 else 2) + if writesOutput a then 2 else 0

/-- The flags that stand between the PLT and the categories. -/
def switches : List String := ["--get_warnings", "--no_check_plt"]

/-- Whether an argument is a category. -/
def isCategory (argument : String) : Bool := "-W".toList.isPrefixOf argument.toList

/-- The category in an argument. -/
def categoryOf (argument : String) : String := .ofList (argument.toList.drop 2)

/-- The options that arguments come from. -/
def optionsOf (arguments : List String) : Options :=
  let a := analysisOf arguments
  let named := arguments.drop (modeFlags a).length
  let told := named.drop (pathArguments a)
  let listed := told.dropWhile (· ∈ switches)
  let w : Wishes :=
    { warnings := ((listed.takeWhile isCategory).map categoryOf).map Json.str
      getWarnings := .bool (told.head? = some "--get_warnings") }
  w.optionsFor a ((listed.dropWhile isCategory).drop 2) (Path.parse (named[1]?.getD ""))

/-! ## The parts of the arguments -/

/-- The arguments that name the PLT. -/
def pathsTo (a : Analysis) (plt : Path) : List String :=
  (if a = .build then [] else ["--plt", plt.text]) ++ if writesOutput a then ["--output_plt", plt.text] else []

/-- The switches of an analysis. -/
def switchesOf (a : Analysis) (warned : Bool) : List String :=
  (if warned && a.mutatesPlt then ["--get_warnings"] else []) ++ if a = .check then [] else ["--no_check_plt"]

/-- The arguments from the categories on. -/
def listed (categories files : List String) : List String :=
  categories.map ("-W" ++ ·) ++ "--fullpath" :: "--quiet" :: files

theorem arguments_optionsFor (named : (w.optionsFor a files plt).warnings = categories.map Json.str) :
    arguments (w.optionsFor a files plt) =
      modeFlags a ++ (pathsTo a plt ++ (switchesOf a (w.wantsWarnings a).isSet ++ listed categories files)) := by
  have texts : (w.optionsFor a files plt).warnings.map (fun category => "-W" ++ category.display) =
      categories.map ("-W" ++ ·) := by
    rw [named, List.map_map]
    rfl
  rw [arguments, texts]
  cases a <;> simp [Wishes.optionsFor, pathFlag, pathsTo, switchesOf, listed, writesOutput, Analysis.mutatesPlt]

theorem analysisOf_append (more : List String) : analysisOf (modeFlags a ++ (pathsTo a plt ++ more)) = a := by
  cases a <;> simp [analysisOf, Analysis.all, modeFlags, pathsTo]

theorem pathsTo_one (more : List String) : (pathsTo a plt ++ more)[1]? = some plt.text := by cases a <;> rfl

theorem length_pathsTo : (pathsTo a plt).length = pathArguments a := by cases a <;> rfl

/-! ## The categories and what stands before them -/

theorem isCategory_append (category : String) : isCategory ("-W" ++ category) = true := by
  simp [isCategory]

theorem categoryOf_append (category : String) : categoryOf ("-W" ++ category) = category := by
  simp [categoryOf]

/-- No switch is taken for a category, nor the first argument after the categories. -/
theorem not_isCategory : ∀ flag ∈ "--fullpath" :: switches, isCategory flag = false := by decide +kernel

theorem takeWhile_listed : (listed categories files).takeWhile isCategory = categories.map ("-W" ++ ·) := by
  rw [listed, List.takeWhile_append_of_pos, List.takeWhile_cons_of_neg]
  · simp
  · simp [not_isCategory]
  · simp [isCategory_append]

theorem dropWhile_listed : (listed categories files).dropWhile isCategory = "--fullpath" :: "--quiet" :: files := by
  rw [listed, List.dropWhile_append_of_pos, List.dropWhile_cons_of_neg]
  · simp [not_isCategory]
  · simp [isCategory_append]

/-- The argument after the switches is none of them. -/
theorem head_listed : ∀ first ∈ (listed categories files).head?, first ∉ switches := by
  intro first front member
  cases categories with
  | nil =>
    obtain rfl : "--fullpath" = first := by simpa [listed] using front
    exact absurd member (by decide)
  | cons category rest =>
    obtain rfl : "-W" ++ category = first := by simpa [listed] using front
    have none := not_isCategory _ (List.mem_cons_of_mem _ member)
    rw [isCategory_append] at none
    exact nomatch none

theorem mem_switches {flag : String} {warned : Bool} (member : flag ∈ switchesOf a warned) : flag ∈ switches := by
  revert flag
  cases a <;> cases warned <;> decide

theorem dropWhile_switches {warned : Bool} :
    (switchesOf a warned ++ listed categories files).dropWhile (· ∈ switches) = listed categories files := by
  rw [List.dropWhile_append_of_pos fun flag member => decide_eq_true (mem_switches member)]
  cases front : listed categories files with
  | nil => rfl
  | cons first rest =>
    have other : first ∉ switches := head_listed first (by rw [front]; rfl)
    rw [List.dropWhile_cons_of_neg (by simpa using other)]

theorem head_switches {warned : Bool} :
    (switchesOf a warned ++ listed categories files).head? = some "--get_warnings" ↔
      warned = true ∧ a.mutatesPlt = true := by
  have other : (listed categories files).head? ≠ some "--get_warnings" := fun front =>
    head_listed _ front List.mem_cons_self
  cases warned <;> cases a <;> simp [switchesOf, Analysis.mutatesPlt, other]

/-! ## Reading back -/

theorem wantsWarnings_eq (plain : w.Plain) (a : Analysis) : w.wantsWarnings a = .bool (w.wantsWarnings a).isSet := by
  obtain ⟨b, flag⟩ := plain.flag
  unfold Wishes.wantsWarnings
  split
  · rfl
  · rw [flag, Json.isSet]

theorem categories_optionsFor (plain : w.Plain) (a : Analysis) (files : List String) (plt : Path) :
    ∃ categories, (w.optionsFor a files plt).warnings = .map Json.str categories := by
  rw [Wishes.optionsFor]
  split
  · exact plain.categories
  · exact ⟨_, rfl⟩

/-- Wishes that lead to the same switches and categories lead to the same options. -/
theorem optionsFor_eq (plain : w.Plain) (named : (w.optionsFor a files plt).warnings = categories.map Json.str)
    {warned : Bool} (told : warned = true ↔ (w.wantsWarnings a).isSet = true ∧ a.mutatesPlt = true) :
    Wishes.optionsFor { warnings := categories.map Json.str, getWarnings := .bool warned } a files plt =
      { w.optionsFor a files plt with homePlt := none } := by
  have same : Wishes.wantsWarnings { warnings := categories.map Json.str, getWarnings := .bool warned } a =
      w.wantsWarnings a := by
    cases kind : a.alwaysWarns with
    | true => simp [Wishes.wantsWarnings, kind]
    | false =>
      have mutates : a.mutatesPlt = true := by simpa [Analysis.mutatesPlt, Analysis.alwaysWarns] using kind
      have flag : warned = (w.wantsWarnings a).isSet := by
        rw [Bool.eq_iff_iff, told, mutates]
        exact and_iff_left rfl
      rw [wantsWarnings_eq plain, ← flag]
      simp [Wishes.wantsWarnings, kind]
  have kept : (if (w.wantsWarnings a).isSet then categories.map Json.str else noWarnings) =
      (w.optionsFor a files plt).warnings := by
    rw [← named, Wishes.optionsFor]
    split <;> rfl
  rw [Wishes.optionsFor, same, kept]
  rfl

/-- Options are read back from the arguments, but for what is named in the environment. -/
theorem optionsOf_arguments (asked : o.AskedFor) : optionsOf (arguments o) = { o with homePlt := none } := by
  obtain ⟨a, files, plain, proper⟩ := asked
  obtain ⟨categories, named⟩ := categories_optionsFor plain a files _
  have texts : (categories.map ("-W" ++ ·)).map categoryOf = categories := by
    rw [List.map_map]
    exact (List.map_congr_left fun category _ => categoryOf_append category).trans (List.map_id _)
  rw [arguments_optionsFor named, optionsOf]
  simp only [analysisOf_append, List.drop_left, List.drop_left' length_pathsTo, dropWhile_switches, takeWhile_listed,
    dropWhile_listed, texts, pathsTo_one, Option.getD_some, Path.Proper.parse_text proper, List.drop_succ_cons,
    List.drop_zero]
  exact optionsFor_eq plain named (decide_eq_true_iff.trans head_switches)

/-- The command line determines what is asked: whatever the paths, the categories and the files look like, the
same program with the same arguments is asked for the same analysis of the same files against the same PLT, with
the same categories and warnings wanted alike. -/
theorem options_of_command {executable : String} (asked : o.AskedFor) (asked' : o'.AskedFor)
    (same : command executable o = command executable o') :
    o.analysis = o'.analysis ∧ o.initPlt = o'.initPlt ∧ o.outputPlt = o'.outputPlt ∧
      o.getWarnings = o'.getWarnings ∧ o.warnings = o'.warnings ∧ o.files = o'.files := by
  have arguments : arguments o = arguments o' := (List.cons.inj same).2
  have read : { o with homePlt := none } = { o' with homePlt := none } := by
    rw [← optionsOf_arguments asked, ← optionsOf_arguments asked', arguments]
  simp only [Options.mk.injEq] at read
  obtain ⟨analysis, files, flag, warnings, initPlt, outputPlt, -⟩ := read
  exact ⟨analysis, initPlt, outputPlt, flag, warnings, files⟩

/-- A check against a PLT that looks like a switch, of files that look like a category and a flag. Without warnings
the category does not count. -/
def disguised (category home : String) : Options :=
  Wishes.optionsFor { warnings := [.str category], homePlt := some home } .check ["-Wx", "--quiet"]
    (Path.parse "--get_warnings")

theorem options_of_disguised :
    (disguised "--src" "/a").AskedFor ∧ (disguised "x" "/b").AskedFor ∧
      command "dialyzer" (disguised "--src" "/a") = command "dialyzer" (disguised "x" "/b") ∧
      (disguised "--src" "/a").initPlt = (disguised "x" "/b").initPlt ∧
      (disguised "--src" "/a").getWarnings = (disguised "x" "/b").getWarnings ∧
      (disguised "--src" "/a").files = (disguised "x" "/b").files := by
  have asked (category home : String) : (disguised category home).AskedFor :=
    .mk .check _ ⟨⟨false, rfl⟩, [category], rfl⟩ (Path.proper_parse _)
  have same : command "dialyzer" (disguised "--src" "/a") = command "dialyzer" (disguised "x" "/b") := rfl
  obtain ⟨-, initPlt, -, flag, -, files⟩ := options_of_command (asked "--src" "/a") (asked "x" "/b") same
  exact ⟨asked _ _, asked _ _, same, initPlt, flag, files⟩

end Dialyzer
end PltKeeper
