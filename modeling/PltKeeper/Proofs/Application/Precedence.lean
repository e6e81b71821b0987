import PltKeeper.Proofs.Application.Ranking

/-! Which directory of compiled objects an application has. The first entry of the search path that bears the name
decides, whether it is there or not; only without one does the library root count, and of its entries for the
application the greatest by version and path. So what is found hangs neither on the order in which the root is
listed nor on how a version is spelled as a text. The one thing that spoils an answer is a path that is too long to
be looked up, which is a failure and not the answer that nothing is found. -/
namespace PltKeeper

/-- Two trees that differ at most in the order in which their directories are listed. -/
structure FileTree.Reordered (t t' : FileTree) : Prop where
  entries : ∀ l, t'.at? l = t.at? l
  names : ∀ l, (t'.names l).Perm (t.names l)

namespace FileTree

variable {t t' : FileTree} {cwd : String} {p : Path}

theorem Reordered.reach (same : t.Reordered t') (cwd : String) (p : Path) : t'.reach cwd p = t.reach cwd p := by
  have follow (here : Location) (parts : List String) : t'.follow here parts = t.follow here parts := by
    induction parts generalizing here with
    | nil => rfl
    | cons part rest ih => simp only [FileTree.follow, same.entries, ih]
  simp only [FileTree.reach, follow]

theorem Reordered.isDir (same : t.Reordered t') (cwd : String) (p : Path) : t'.isDir cwd p = t.isDir cwd p := by
  simp only [FileTree.isDir, FileTree.test, FileTree.find, same.reach, same.entries]

/-- The listings of one directory differ in their order only. -/
theorem Reordered.list (same : t.Reordered t') {names : List String} (listed : t.list cwd p = .ok names) :
    ∃ names', t'.list cwd p = .ok names' ∧ names'.Perm names := by
  obtain ⟨l, reached, entry, rfl⟩ := list_eq_ok_iff.mp listed
  have again : t'.list cwd p = .ok (t'.names l) :=
    list_eq_ok_iff.mpr ⟨l, by rw [same.reach, reached], by rw [same.entries, entry], rfl⟩
  exact ⟨_, again, same.names l⟩

end FileTree

namespace Registry

open AppDirectory

variable {r : Registry} {cwd name : String} {t t' : FileTree} {root ebin : Path} {d d' : String}

/-! ## Where an application is expected -/

/-- A directory of compiled objects, by its own name, that bears the name of an application in that of the
directory above, with a version or without. -/
def Bears (name : String) (ebin : Path) : Prop := ebin.name = ebinName ∧ (ofName ebin.parent.name).name = name
/-- An entry of the library root, if that is a directory, that bears the name of an application. -/
inductive Offers (r : Registry) (cwd : String) (t : FileTree) (name d : String) : Prop
  | entry {root : Path} {directories : List String} (set : r.libRoot = some root)
    (dir : t.find cwd root = .ok .dir) (listed : t.list cwd root = .ok directories) (member : d ∈ directories)
    (named : (ofName d).name = name)

/-- The directory of compiled objects in an entry of the library root. -/
def ebinBelow (root : Path) (d : String) : Path := root / ⟨.relative, [d, ebinName]⟩

/-- What entries of the library root are compared by: their versions first, then their paths. -/
def standing (root : Path) (d : String) : List Int ×ₗ List String :=
  toLex (ranks (ofName d).version, (ebinBelow root d).parts)

/-- The greatest of the entries for an application. -/
structure Highest (r : Registry) (cwd : String) (t : FileTree) (name : String) (root : Path) (d : String) :
    Prop where
  set : r.libRoot = some root
  offered : r.Offers cwd t name d
  above : ∀ d', r.Offers cwd t name d' → standing root d' ≤ standing root d

/-- Where an application should be, if anywhere. -/
inductive Expected (r : Registry) (cwd : String) (t : FileTree) (name : String) : Option Path → Prop
  /-- The first entry of the search path that bears its name, whatever the library root holds. -/
  | first {before after : List Path} {ebin : Path} (path : r.searchPath = before ++ ebin :: after)
    (passed : ∀ p ∈ before, ¬ Bears name p) (bears : Bears name ebin) : Expected r cwd t name (some ebin)
  /-- Nowhere, if neither the search path nor the library root has an entry for it. -/
  | nowhere (passed : ∀ p ∈ r.searchPath, ¬ Bears name p) (empty : ∀ d, ¬ r.Offers cwd t name d) :
    Expected r cwd t name none
  /-- In the greatest entry of the library root, if the search path has none. -/
  | highest {root : Path} {d : String} (passed : ∀ p ∈ r.searchPath, ¬ Bears name p)
    (highest : r.Highest cwd t name root d) : Expected r cwd t name (some (ebinBelow root d))

/-- A path that has to be looked up is too long for that. -/
inductive Refused (r : Registry) (cwd : String) (t : FileTree) (name : String) : Prop
  /-- That of the library root, which counts if the search path has no entry. -/
  | root {root : Path} (passed : ∀ p ∈ r.searchPath, ¬ Bears name p) (set : r.libRoot = some root)
    (tooLong : t.find cwd root = .error .nameTooLong)
  /-- That of the place where the application should be. -/
  | ebin {ebin : Path} (expected : r.Expected cwd t name (some ebin))
    (tooLong : t.find cwd ebin = .error .nameTooLong)

/-- The entries for an application have names that a directory can list, and whatever looks like a number in their
versions is one. -/
structure Sound (r : Registry) (cwd : String) (t : FileTree) (name : String) : Prop where
  short : ∀ d, r.Offers cwd t name d → d.utf8ByteSize ≤ FileTree.longestName
  decimal : ∀ d, r.Offers cwd t name d → Decimal (ofName d).version

theorem inSearchPath?_eq_some_iff : r.inSearchPath? name = some ebin ↔
    ∃ before after, r.searchPath = before ++ ebin :: after ∧ (∀ p ∈ before, ¬ Bears name p) ∧ Bears name ebin := by
  simp only [inSearchPath?, List.find?_eq_some_iff_append, Bears, Bool.and_eq_true, decide_eq_true_eq,
    Bool.not_eq_true', Bool.and_eq_false_iff, decide_eq_false_iff_not, not_and_or]
  constructor
  · rintro ⟨bears, before, after, path, passed⟩
    exact ⟨before, after, path, passed, bears⟩
  · rintro ⟨before, after, path, passed, bears⟩
    exact ⟨bears, before, after, path, passed⟩

/-- The candidate that an entry of the library root is. -/
def candidateOf (d : String) : Candidate := ⟨ranks (ofName d).version, d⟩

theorem parts_ebinBelow (root : Path) (d : String) : (ebinBelow root d).parts = root.parts ++ [d, ebinName] := rfl

/-- Candidates are compared as their paths below the library root are. -/
theorem standing_le_iff : (candidateOf d').standing ≤ (candidateOf d).standing ↔
    standing root d' ≤ standing root d := by
  have paths : (ebinBelow root d).parts < (ebinBelow root d').parts ↔ d < d' := by
    rw [parts_ebinBelow, parts_ebinBelow]
    induction root.parts with
    | nil => simp [List.cons_lt_cons_iff]
    | cons part parts ih => simpa [List.cons_lt_cons_iff] using ih
  rw [← not_lt, ← not_lt, Candidate.standing, Candidate.standing, standing, standing, Prod.Lex.toLex_lt_toLex,
    Prod.Lex.toLex_lt_toLex]
  simp only [candidateOf, paths]

/-- Only one entry is the greatest. -/
theorem Highest.unique {root' : Path} (highest : r.Highest cwd t name root d)
    (highest' : r.Highest cwd t name root' d') : root' = root ∧ d' = d := by
  obtain rfl : root' = root := Option.some.inj (highest'.set.symm.trans highest.set)
  have equal := le_antisymm (highest.above d' highest'.offered) (highest'.above d highest.offered)
  have parts := congrArg Prod.snd (toLex.injective equal)
  simp only [parts_ebinBelow, List.append_cancel_left_eq, List.cons.injEq, and_true] at parts
  exact ⟨rfl, parts⟩

/-! ## What is located -/

/-- An application is expected in one place at most. -/
theorem Expected.unique {p p' : Option Path} (expected : r.Expected cwd t name p)
    (expected' : r.Expected cwd t name p') : p' = p := by
  have first {before after : List Path} {ebin : Path} (path : r.searchPath = before ++ ebin :: after)
      (passed : ∀ p ∈ before, ¬ Bears name p) (bears : Bears name ebin) : r.inSearchPath? name = some ebin :=
    inSearchPath?_eq_some_iff.mpr ⟨before, after, path, passed, bears⟩
  cases expected with
  | first path passed bears =>
    cases expected' with
    | first path' passed' bears' => exact (first path' passed' bears').symm.trans (first path passed bears)
    | nowhere passed' => exact absurd bears (passed' _ (path ▸ List.mem_append_right _ List.mem_cons_self))
    | highest passed' => exact absurd bears (passed' _ (path ▸ List.mem_append_right _ List.mem_cons_self))
  | nowhere passed empty =>
    cases expected' with
    | first path' _ bears' => exact absurd bears' (passed _ (path' ▸ List.mem_append_right _ List.mem_cons_self))
    | nowhere => rfl
    | highest _ highest' => exact absurd highest'.offered (empty _)
  | highest passed highest =>
    cases expected' with
    | first path' _ bears' => exact absurd bears' (passed _ (path' ▸ List.mem_append_right _ List.mem_cons_self))
    | nowhere _ empty' => exact absurd highest.offered (empty' _)
    | highest _ highest' =>
      obtain ⟨rfl, rfl⟩ := highest.unique highest'
      rfl

/-- Where a path is too long, nothing that is there is expected. -/
theorem Refused.absent (refused : r.Refused cwd t name) :
    ∃ place, r.Expected cwd t name place ∧ ∀ ebin, place = some ebin → t.find cwd ebin ≠ .ok .dir := by
  rcases refused with ⟨passed, set, tooLong⟩ | ⟨expected, tooLong⟩
  · refine ⟨none, .nowhere passed ?_, nofun⟩
    rintro d ⟨set', dir, -, -, -⟩
    cases set.symm.trans set'
    exact nomatch dir.symm.trans tooLong
  · refine ⟨_, expected, ?_⟩
    rintro _ ⟨⟩ dir
    exact nomatch dir.symm.trans tooLong

/-- An entry with a version is preferred to the one without. -/
theorem Highest.versioned (highest : r.Highest cwd t name root d) (bare : (ofName d).version = "")
    (offered : r.Offers cwd t name d') : (ofName d').version = "" := by
  by_contra versioned
  have named {d : String} (offered : r.Offers cwd t name d) : (ofName d).name = name := by
    obtain ⟨-, -, -, -, named⟩ := offered
    exact named
  have same : d = name := by
    rcases ofName_cases d with whole | ⟨-, c, rest, text, -⟩
    · rw [← named highest.offered, whole]
    · rw [bare] at text
      exact nomatch text
  have longer : d < d' := by
    rw [String.lt_iff_toList_lt, same, ← named offered]
    have extended (s tail : List Char) (c : Char) : s < s ++ c :: tail := by
      have more : s ++ [] < s ++ c :: tail := List.append_left_lt (List.nil_lt_cons c tail)
      rwa [List.append_nil] at more
    rcases ofName_cases d' with whole | ⟨text | text, -⟩
    · rw [whole] at versioned
      exact absurd rfl versioned
    · rw [text]
      exact extended _ _ _
    · rw [text, List.append_assoc]
      exact extended _ _ _
  have higher : (candidateOf d).standing < (candidateOf d').standing := by
    rw [Candidate.standing, Candidate.standing, Prod.Lex.toLex_lt_toLex]
    have ranks := ranks_empty_le (ofName d').version
    rw [← bare] at ranks
    exact ranks.lt_or_eq.imp_right fun equal => ⟨equal, longer⟩
  exact absurd (standing_le_iff.mpr (highest.above d' offered)) (not_le.mpr higher)

end Registry

end PltKeeper
