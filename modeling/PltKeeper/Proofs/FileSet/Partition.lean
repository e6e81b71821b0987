import PltKeeper.Proofs.FileSet.Keys

/-! The delta between files that are given by texts. What counts of a text is its key, so however the two sides
are spelled, and whether they come as texts or as sets, the delta divides the same two sets: no file is in two of
its parts, and each part together with the one that is checked gives one side back. Keys are their own keys, so a
side that has followed the delta once has nothing left to follow. -/
namespace PltKeeper

variable {cwd : String} {s held required : FileSet} {f g : Files} {old new : List String}

/-! ## Ways to give files -/

/-- The ways to give a set of keys: as it is, or by its members, in any order and any number. -/
inductive Files.Lists (s : FileSet) : Files → Prop
  | set : Lists s (.set s)
  | members {texts : List String} (same : ∀ file, file ∈ texts ↔ file ∈ s) : Lists s (.texts texts)

/-- The ways to give the files that texts name: by the texts, or as the set of their keys. -/
inductive Files.Names (cwd : String) (texts : List String) : Files → Prop
  | texts : Names cwd texts (.texts texts)
  | keys {f : Files} (lists : f.Lists (.of cwd texts)) : Names cwd texts f

theorem FileSet.eq_empty_iff : s = ∅ ↔ ∀ file, file ∉ s := by
  constructor
  · rintro rfl file
    exact not_mem_empty
  · exact fun absent => ext fun file => iff_of_false (absent file) not_mem_empty

theorem FileSet.inter_eq_empty_iff : s ∩ held = ∅ ↔ ∀ file ∈ s, file ∉ held := by
  simp only [eq_empty_iff, mem_inter, not_and]

theorem FileSet.diff_eq_empty_iff : s \ held = ∅ ↔ ∀ file ∈ s, file ∈ held := by
  simp only [eq_empty_iff, mem_diff, not_and, not_not]

theorem FileSet.of_eq_of_mem_iff {texts : List String} (canonical : s.Canonical cwd)
    (same : ∀ file, file ∈ texts ↔ file ∈ s) : of cwd texts = s := by
  rw [← of_toList canonical]
  refine ext fun file => ?_
  simp only [mem_of, same, ← mem_def]

theorem Files.Lists.toSet_eq (lists : f.Lists s) (canonical : s.Canonical cwd) : f.toSet cwd = s := by
  cases lists with
  | set => rfl
  | members same => exact FileSet.of_eq_of_mem_iff canonical same

theorem Files.Names.toSet_eq (rooted : Path.Rooted cwd) (names : f.Names cwd old) : f.toSet cwd = .of cwd old := by
  cases names with
  | texts => rfl
  | keys lists => exact lists.toSet_eq (FileSet.canonical_of rooted old)

namespace Delta

theorem ofFiles_eq (cwd : String) (f g : Files) : ofFiles cwd f g = between (f.toSet cwd) (g.toSet cwd) := rfl

/-! ## What a delta divides -/

/-- The delta is one between these two sets. -/
structure Divides (d : Delta) (held required : FileSet) : Prop where
  /-- No file is both removed and checked, -/
  removeCheck : d.remove ∩ d.check = ∅
  /-- or checked and added, -/
  checkAdd : d.check ∩ d.add = ∅
  /-- or removed and added. -/
  removeAdd : d.remove ∩ d.add = ∅
  /-- What is removed or checked is held, -/
  removeOrCheck : d.remove ∪ d.check = held
  /-- and what is checked or added is required. -/
  checkOrAdd : d.check ∪ d.add = required
  /-- All of it is held or required. -/
  whole : d.union = held ∪ required
  /-- There is nothing in it just where there is nothing on either side. -/
  isEmpty : d.isEmpty = true ↔ held = ∅ ∧ required = ∅
  /-- Following it changes something just where the two sides differ. -/
  changes : d.changesContents = true ↔ held ≠ required

theorem divides_between (held required : FileSet) : (between held required).Divides held required where
  removeCheck := FileSet.inter_eq_empty_iff.mpr fun _ removed checked =>
    (FileSet.mem_diff.mp removed).2 (FileSet.mem_inter.mp checked).2
  checkAdd := FileSet.inter_eq_empty_iff.mpr fun _ checked added =>
    (FileSet.mem_diff.mp added).2 (FileSet.mem_inter.mp checked).1
  removeAdd := FileSet.inter_eq_empty_iff.mpr fun _ removed added =>
    (FileSet.mem_diff.mp removed).2 (FileSet.mem_diff.mp added).1
  removeOrCheck := FileSet.ext fun file => by
    simp only [between, FileSet.mem_union, FileSet.mem_diff, FileSet.mem_inter]
    tauto
  checkOrAdd := FileSet.inter_union_diff
  whole := FileSet.ext fun file => by
    simp only [between, union, FileSet.mem_union, FileSet.mem_diff, FileSet.mem_inter]
    tauto
  isEmpty := by
    have parts : held = ∅ ∧ required = ∅ ↔ held \ required = ∅ ∧ held ∩ required = ∅ ∧ required \ held = ∅ := by
      simp only [FileSet.eq_empty_iff, FileSet.mem_diff, FileSet.mem_inter, ← forall_and]
      refine forall_congr' fun file => ?_
      tauto
    simp only [Delta.isEmpty, Bool.and_eq_true, FileSet.isEmpty_iff, and_assoc]
    exact parts.symm
  changes := by
    have same : held \ required = ∅ ∧ required \ held = ∅ ↔ held = required := by
      rw [FileSet.diff_eq_empty_iff, FileSet.diff_eq_empty_iff]
      constructor
      · rintro ⟨within, back⟩
        exact FileSet.ext fun file => ⟨within file, back file⟩
      · rintro rfl
        exact ⟨fun _ => id, fun _ => id⟩
    have either : (between held required).changesContents = true ↔ ¬ (held \ required = ∅ ∧ required \ held = ∅) := by
      rw [← FileSet.isEmpty_iff, ← FileSet.isEmpty_iff, ← Bool.and_eq_true, Bool.not_eq_true, Bool.and_eq_false_iff]
      simp only [changesContents, between, Bool.or_eq_true, Bool.not_eq_true']
    exact either.trans (not_congr same)

/-- The delta in the other direction. -/
def swapped (d : Delta) : Delta := ⟨d.add, d.check, d.remove⟩

theorem between_swapped (held required : FileSet) : between required held = (between held required).swapped := by
  have same : required ∩ held = held ∩ required := FileSet.ext fun file => by simp only [FileSet.mem_inter, and_comm]
  rw [between, swapped, same]
  rfl

/-- What is held after the delta has been followed. -/
def follow (d : Delta) (held : FileSet) : FileSet := (held \ d.remove) ∪ d.add

theorem follow_between (held required : FileSet) : (between held required).follow held = required := by
  rw [follow, between, FileSet.diff_diff_self, FileSet.inter_union_diff]

/-- Where both sides are the same there is nothing but files to check. -/
theorem between_self (s : FileSet) : between s s = ⟨∅, s, ∅⟩ := by
  have within : ∀ file ∈ s, file ∈ s := fun _ => id
  obtain ⟨nothing, all⟩ := FileSet.delta_of_subset within
  rw [between, nothing, all]

/-! ## Deltas between texts -/

/-- What the delta is between the files that two lists of texts name. -/
structure Partitions (cwd : String) (old new : List String) (d : Delta) : Prop where
  /-- It divides the keys of the texts. -/
  divides : d.Divides (.of cwd old) (.of cwd new)
  /-- Two spellings of one file, one on either side, are a file to check. -/
  spellings : ∀ file ∈ old, ∀ file' ∈ new, Path.canonical cwd file = Path.canonical cwd file' →
    Path.canonical cwd file ∈ d.check ∧ Path.canonical cwd file ∉ d.remove ∧ Path.canonical cwd file ∉ d.add
  /-- Its parts are those that are asked for one by one, and it is the same one, however the sides are given. -/
  given : ∀ f g, Files.Names cwd old f → Files.Names cwd new g →
    f.toRemove cwd g = d.remove ∧ f.toCheck cwd g = d.check ∧ f.toAdd cwd g = d.add ∧ ofFiles cwd f g = d
  /-- In the other direction it has its parts swapped. -/
  swaps : ∀ f g, Files.Names cwd old f → Files.Names cwd new g → ofFiles cwd g f = d.swapped
  /-- Once it has been followed there is nothing to remove or to add, and all that is required to check. -/
  settles : ∀ f g, f.Lists (d.follow (.of cwd old)) → Files.Names cwd new g → ofFiles cwd f g = ⟨∅, .of cwd new, ∅⟩

/-- The delta between files that are given by texts partitions their keys. -/
theorem partitions_of_texts (rooted : Path.Rooted cwd) (old new : List String) :
    Partitions cwd old new (ofFiles cwd (.texts old) (.texts new)) := by
  have whole : ofFiles cwd (.texts old) (.texts new) = between (.of cwd old) (.of cwd new) := rfl
  rw [whole]
  refine ⟨divides_between _ _, ?spellings, ?given, ?swaps, ?settles⟩
  case spellings =>
    intro file inOld file' inNew same
    have held : Path.canonical cwd file ∈ FileSet.of cwd old := FileSet.mem_of.mpr ⟨file, inOld, rfl⟩
    have required : Path.canonical cwd file ∈ FileSet.of cwd new := FileSet.mem_of.mpr ⟨file', inNew, same.symm⟩
    refine ⟨FileSet.mem_inter.mpr ⟨held, required⟩, fun removed => ?_, fun added => ?_⟩
    · exact (FileSet.mem_diff.mp removed).2 required
    · exact (FileSet.mem_diff.mp added).2 held
  case given =>
    intro f g oldNames newNames
    rw [Files.toRemove, Files.toCheck, Files.toAdd, ofFiles_eq, oldNames.toSet_eq rooted, newNames.toSet_eq rooted]
    exact ⟨rfl, rfl, rfl, rfl⟩
  case swaps =>
    intro f g oldNames newNames
    rw [ofFiles_eq, oldNames.toSet_eq rooted, newNames.toSet_eq rooted, between_swapped]
  case settles =>
    intro f g lists newNames
    rw [follow_between] at lists
    rw [ofFiles_eq, lists.toSet_eq (FileSet.canonical_of rooted new), newNames.toSet_eq rooted, between_self]

/-- Two files held, one of them named twice, and two required, one of them the same in another spelling. -/
theorem partitions_of_spellings : Path.Rooted "/w" ∧
    Partitions "/w" ["a/../b.beam", "/w/b.beam", "/w//c.beam"] ["./b.beam", "d.beam"]
      (ofFiles "/w" (.texts ["a/../b.beam", "/w/b.beam", "/w//c.beam"]) (.texts ["./b.beam", "d.beam"])) ∧
    ofFiles "/w" (.texts ["a/../b.beam", "/w/b.beam", "/w//c.beam"]) (.texts ["./b.beam", "d.beam"]) =
      ⟨.ofList ["/w/c.beam"], .ofList ["/w/b.beam"], .ofList ["/w/d.beam"]⟩ := by
  have rooted : Path.Rooted "/w" := by decide +kernel
  exact ⟨rooted, partitions_of_texts rooted _ _, by decide +kernel⟩

end Delta

end PltKeeper
