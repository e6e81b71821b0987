import PltKeeper.Proofs.Tree.Changes
import PltKeeper.Run.Job

/-! The files of a run are told apart by their names: that of a PLT ends in `_plt` and that of the
warnings file in `_warnings`, whatever directories, prefixes and releases are configured.
So no write to a PLT reaches the warnings file, and no warning is written into a PLT. -/
namespace PltKeeper

/-- The last component of a path ends as said. -/
def Path.EndsWith (p : Path) (ending : List Char) : Prop :=
  ∃ name, p.parts.getLast? = some name ∧ ending <:+ name.toList

/-- The ending of a PLT's name. -/
def pltEnding : List Char := ['_', 'p', 'l', 't']

/-- The ending of the warnings file's name. -/
def reportEnding : List Char := ['_', 'w', 'a', 'r', 'n', 'i', 'n', 'g', 's']

namespace Path

/-- The piece after the last slash grows with what is added to a text. -/
theorem splitOn_append_last {c : Char} {ending : List Char} (free : c ∉ ending) (chars : List Char) :
    ∃ pieces last, (chars ++ ending).splitOn c = pieces ++ [last ++ ending] := by
  induction chars with
  | nil => exact ⟨[], [], by simpa using List.splitOn_eq_singleton free⟩
  | cons d rest ih =>
    obtain ⟨pieces, last, split⟩ := ih
    rw [List.cons_append, List.splitOn_cons_eq_if_modifyHead, split]
    by_cases cut : (d == c) = true
    · exact ⟨[] :: pieces, last, by simp [cut]⟩
    · cases pieces with
      | nil => exact ⟨[], d :: last, by simp [cut]⟩
      | cons piece pieces => exact ⟨(d :: piece) :: pieces, last, by simp [cut]⟩

/-- A text that ends in such an ending names a path that does, wherever it is looked up. -/
theorem endsWith_child {ending : List Char} {s : String} (directory : Path)
    (free : '/' ∉ ending) (long : 1 < ending.length) (ends : ending <:+ s.toList) :
    (directory.child s).EndsWith ending := by
  obtain ⟨before, whole⟩ := ends
  obtain ⟨pieces, last, split⟩ := splitOn_append_last free before
  have size : 1 < (last ++ ending).length := by
    rw [List.length_append]
    omega
  have kept : (String.ofList (last ++ ending) ≠ "" && String.ofList (last ++ ending) ≠ ".") = true := by
    have nonempty : String.ofList (last ++ ending) ≠ "" := by
      intro same
      rw [show last ++ ending = [] by simpa using congrArg String.toList same] at size
      exact absurd size (by decide)
    have notHere : String.ofList (last ++ ending) ≠ "." := by
      intro same
      rw [show last ++ ending = ['.'] by simpa using congrArg String.toList same] at size
      exact absurd size (by decide)
    rw [Bool.and_eq_true, decide_eq_true_iff, decide_eq_true_iff]
    exact ⟨nonempty, notHere⟩
  have parts : (parse s).parts.getLast? = some (String.ofList (last ++ ending)) := by
    show (components s).getLast? = _
    unfold components
    rw [← whole, split, List.map_append, List.filter_append]
    simp only [List.map_cons, List.map_nil, List.filter_cons, kept, if_true, List.filter_nil]
    simp
  refine ⟨String.ofList (last ++ ending), ?_, ?_⟩
  · show (join directory (parse s)).parts.getLast? = _
    unfold join
    split
    · exact parts
    · simp [List.getLast?_append, parts]
  · simp

end Path

/-- The files of a job bear the names that tell them apart. -/
structure Job.Placed {σ : Type} (j : Job σ) : Prop where
  /-- The project PLT bears the name of a PLT. -/
  plt : j.plt.EndsWith pltEnding
  /-- The base PLT bears the name of a PLT. -/
  basePlt : j.basePlt.EndsWith pltEnding
  /-- The warnings file bears the name of one. -/
  output : j.keeper.output.EndsWith reportEnding

section
variable {σ : Type} {host : Host} {backend : Backend σ} {settings : Settings} {project : Project}
  {runtime : OtpRuntime} {j : Job σ}

/-- What a run is made of. -/
theorem Job.of_eq_ok_iff : Job.of host backend settings project runtime = .ok j ↔
    ∃ plt basePlt directory warnings,
      Plt.projectPath host settings.stem.display settings.location settings.baseDir runtime.release =
        .ok plt ∧
      Plt.basePath host settings.baseStem.display settings.baseLocation settings.cacheDir
        runtime.release = .ok basePlt ∧
      settings.baseDir.get = .ok directory ∧ settings.warnings.elements = .ok warnings ∧
      j = {
        keeper := {
          backend := backend
          cwd := host.cwd
          wishes := ⟨warnings, settings.getWarnings, settings.homePlt⟩
          output := Plt.warningsPath directory runtime.release
          stops? := host.stops? }
        settings := settings
        project := project
        plt := plt
        basePlt := basePlt
        libRoot := some runtime.libDir } := by
  unfold Job.of
  cases Plt.projectPath host settings.stem.display settings.location settings.baseDir runtime.release with
  | error e => simp [bind, Except.bind]
  | ok plt =>
    cases Plt.basePath host settings.baseStem.display settings.baseLocation settings.cacheDir
        runtime.release with
    | error e => simp [bind, Except.bind]
    | ok basePlt =>
      cases settings.baseDir.get with
      | error e => simp [bind, Except.bind]
      | ok directory =>
        cases settings.warnings.elements with
        | error e => simp [bind, Except.bind]
        | ok warnings => simp [bind, Except.bind, pure, Except.pure, eq_comm]

/-- What settings, a project and a runtime ask for, taken apart. -/
theorem Job.of_eq_ok (made : Job.of host backend settings project runtime = .ok j) :
    Plt.projectPath host settings.stem.display settings.location settings.baseDir runtime.release =
        .ok j.plt ∧
      Plt.basePath host settings.baseStem.display settings.baseLocation settings.cacheDir
        runtime.release = .ok j.basePlt ∧
      (∃ directory, j.keeper.output = Plt.warningsPath directory runtime.release) ∧
      j.keeper.backend = backend ∧ j.keeper.cwd = host.cwd ∧ j.settings = settings ∧
      j.project = project := by
  obtain ⟨plt, basePlt, directory, warnings, placed, basePlaced, -, -, rfl⟩ := Job.of_eq_ok_iff.mp made
  exact ⟨placed, basePlaced, ⟨directory, rfl⟩, rfl, rfl, rfl, rfl⟩

theorem Job.stops_of (made : Job.of host backend settings project runtime = .ok j) :
    j.keeper.stops? = host.stops? := by
  obtain ⟨_, _, _, _, _, _, _, _, rfl⟩ := Job.of_eq_ok_iff.mp made
  rfl

/-- A PLT's path is made of a directory and the PLT's name. -/
theorem Plt.child_of_placed {found : Except Failure Path} {name : String} {plt : Path}
    (placed : (do return (← found).child name : Except Failure Path) = .ok plt) :
    ∃ directory : Path, plt = directory.child name := by
  cases found with
  | error e => cases placed
  | ok directory => exact ⟨directory, (Except.ok.inj placed).symm⟩

theorem Job.of_placed (made : Job.of host backend settings project runtime = .ok j) : j.Placed := by
  obtain ⟨placed, basePlaced, ⟨outputDirectory, output⟩, _⟩ := Job.of_eq_ok made
  obtain ⟨directory, plt⟩ := Plt.child_of_placed placed
  obtain ⟨baseDirectory, basePlt⟩ := Plt.child_of_placed basePlaced
  have pltName : ∀ stem : String, pltEnding <:+ (Plt.fileName stem runtime.release).toList := by
    intro stem
    refine ⟨(stem ++ "_" ++ runtime.release).toList, ?_⟩
    simp [Plt.fileName, pltEnding]
  refine ⟨?_, ?_, ?_⟩
  · rw [plt]
    exact Path.endsWith_child directory (by decide) (by decide) (pltName _)
  · rw [basePlt]
    exact Path.endsWith_child baseDirectory (by decide) (by decide) (pltName _)
  · rw [output]
    refine Path.endsWith_child outputDirectory (by decide) (by decide) ?_
    refine ⟨(runtime.release ++ ".dialyzer").toList, ?_⟩
    simp [reportEnding]

/-- Whoever analyses, the PLTs of the same settings are the same. -/
theorem Job.plt_unique {τ : Type} {backend' : Backend τ} {j' : Job τ}
    (made : Job.of host backend settings project runtime = .ok j)
    (made' : Job.of host backend' settings project runtime = .ok j') :
    j'.plt = j.plt ∧ j'.basePlt = j.basePlt := by
  obtain ⟨placed, basePlaced, _⟩ := Job.of_eq_ok made
  obtain ⟨placed', basePlaced', _⟩ := Job.of_eq_ok made'
  exact ⟨Except.ok.inj (placed'.symm.trans placed), Except.ok.inj (basePlaced'.symm.trans basePlaced)⟩

end

/-- A PLT is no warnings file. -/
theorem FileTree.not_sameFile_of_endings {t : FileTree} {cwd : String} {p q : Path}
    (plt : p.EndsWith pltEnding) (report : q.EndsWith reportEnding) : ¬ t.SameFile cwd p q := by
  obtain ⟨name, named, ends⟩ := plt
  obtain ⟨name', named', ends'⟩ := report
  have ordinary : name ≠ ".." := by
    rintro rfl
    exact absurd ends.length_le (by decide)
  have ordinary' : name' ≠ ".." := by
    rintro rfl
    exact absurd ends'.length_le (by decide)
  refine not_sameFile_of_names named named' ordinary ordinary' ?_
  rintro rfl
  have nested : pltEnding <:+ reportEnding :=
    List.suffix_of_suffix_length_le ends ends' (by decide)
  exact absurd nested (by decide)

end PltKeeper
