import PltKeeper.Proofs.Traversal
import PltKeeper.Tree.Access
import Mathlib.Data.Option.Basic

/-! What a path finds in a file tree, and how far the changes that a run makes reach. Following a
path asks of every location only whether it is a directory, so writing a file moves no path, and
making directories can only bring further paths within reach. In a tree whose entries all have a
directory above them, a path without `..` always means the same location. -/
namespace PltKeeper.FileTree

variable {t t' : FileTree} {cwd : String} {p q : Path} {l l' here : Location} {bytes : List UInt8}

/-- The bytes of the regular file that a path leads to, if it leads to one. -/
def bytesAt? (t : FileTree) (cwd : String) (p : Path) : Option (List UInt8) :=
  match t.find cwd p with
  | .ok e => e.bytes?
  | .error _ => none

/-- Two paths that lead to one location. -/
def SameFile (t : FileTree) (cwd : String) (p q : Path) : Prop :=
  ∃ l, t.reach cwd p = .ok l ∧ t.reach cwd q = .ok l

/-! ## What a path finds -/

theorem at?_root (t : FileTree) : t.at? [] = some .dir := rfl

theorem ne_root_of_at? (notDir : t.at? l ≠ some .dir) : l ≠ [] := by
  rintro rfl
  exact notDir (at?_root t)

theorem find_eq_ok_iff {e : Entry} :
    t.find cwd p = .ok e ↔ ∃ l, t.reach cwd p = .ok l ∧ t.at? l = some e := by
  simp only [find, bind_ok_iff]
  refine exists_congr fun l => and_congr_right fun _ => ?_
  cases t.at? l <;> simp [pure, Except.pure]

theorem bytesAt?_of_reach (reached : t.reach cwd p = .ok l) : t.bytesAt? cwd p = (t.at? l).bind Entry.bytes? := by
  unfold bytesAt? find
  cases entry : t.at? l <;> simp [reached, entry, bind, Except.bind, pure, Except.pure]

theorem bytesAt?_eq_some_iff :
    t.bytesAt? cwd p = some bytes ↔ ∃ l, t.reach cwd p = .ok l ∧ t.at? l = some (.file bytes) := by
  rw [← find_eq_ok_iff]
  unfold bytesAt?
  cases t.find cwd p with
  | error r => simp
  | ok e => cases e <;> simp [Entry.bytes?]

/-- Two ways to one location find the same file. -/
theorem bytesAt?_eq_of_sameFile (same : t.SameFile cwd p q) : t.bytesAt? cwd p = t.bytesAt? cwd q := by
  obtain ⟨l, first, second⟩ := same
  unfold bytesAt? find
  rw [first, second]

/-- Where the question whether a path leads to a regular file has an answer, it is this one. -/
theorem isFile_eq_ok {there : Bool} (answered : t.isFile cwd p = .ok there) :
    there = (t.bytesAt? cwd p).isSome := by
  unfold isFile test at answered
  unfold bytesAt?
  cases found : t.find cwd p with
  | ok e =>
    simp only [found, Except.ok.injEq] at answered
    exact answered.symm
  | error r =>
    cases r <;> simp [found] at answered <;> simp [answered]

theorem isFile_iff : t.isFile cwd p = .ok true ↔ ∃ bytes, t.bytesAt? cwd p = some bytes := by
  constructor
  · exact fun there => Option.isSome_iff_exists.mp (isFile_eq_ok there).symm
  · rintro ⟨bytes, held⟩
    unfold bytesAt? at held
    unfold isFile test
    cases found : t.find cwd p with
    | error r => simp [found] at held
    | ok e => simp [found] at held ⊢; simp [held]

theorem read_eq_ok (read : t.read cwd p = .ok bytes) : t.bytesAt? cwd p = some bytes := by
  obtain ⟨e, found, read⟩ := bind_ok_iff.mp (mapError_ok_iff.mp read)
  cases e with
  | dir => cases read
  | file held =>
    cases read
    exact bytesAt?_eq_some_iff.mpr (find_eq_ok_iff.mp found)

/-- What can be listed is a directory, and what is listed are the names in it. -/
theorem list_eq_ok_iff {names : List String} :
    t.list cwd p = .ok names ↔ ∃ l, t.reach cwd p = .ok l ∧ t.at? l = some .dir ∧ t.names l = names := by
  simp only [list, mapError_ok_iff, bind_ok_iff]
  refine exists_congr fun l => and_congr_right fun _ => ?_
  cases t.at? l with
  | none => simp
  | some e => cases e <;> simp [pure, Except.pure]

/-! ## Following a path -/

theorem follow_cons_iff {part : String} {rest : List String} :
    t.follow here (part :: rest) = .ok l ↔ t.at? here = some .dir ∧
      ((part = ".." ∧ t.follow here.dropLast rest = .ok l) ∨
        (part ≠ ".." ∧ ¬ longestName < part.utf8ByteSize ∧ t.follow (here ++ [part]) rest = .ok l)) := by
  rw [follow]
  cases entry : t.at? here with
  | none => simp
  | some e =>
    cases e with
    | file bytes => simp
    | dir =>
      by_cases up : part = ".."
      · simp [up]
      · by_cases long : longestName < part.utf8ByteSize <;> simp [up, long]

theorem reach_eq_ok_iff :
    t.reach cwd p = .ok l ↔ checkSpelling p = .ok () ∧ t.follow (startOf cwd p) p.parts = .ok l := by
  unfold reach
  cases spelled : checkSpelling p <;> simp [bind, Except.bind]

/-- A path that can be followed still can where every directory is still one. -/
theorem follow_of_dirs (dirs : ∀ l, t.at? l = some .dir → t'.at? l = some .dir) (parts : List String)
    (followed : t.follow here parts = .ok l) : t'.follow here parts = .ok l := by
  induction parts generalizing here with
  | nil => exact followed
  | cons part rest ih =>
    rw [follow_cons_iff] at followed ⊢
    obtain ⟨dir, ⟨up, followed⟩ | ⟨ordinary, short, followed⟩⟩ := followed
    · exact ⟨dirs here dir, .inl ⟨up, ih followed⟩⟩
    · exact ⟨dirs here dir, .inr ⟨ordinary, short, ih followed⟩⟩

theorem reach_of_dirs (dirs : ∀ l, t.at? l = some .dir → t'.at? l = some .dir)
    (reached : t.reach cwd p = .ok l) : t'.reach cwd p = .ok l := by
  rw [reach_eq_ok_iff] at reached ⊢
  exact ⟨reached.1, follow_of_dirs dirs p.parts reached.2⟩

theorem follow_last (parts : List String) {name : String} (named : parts.getLast? = some name)
    (ordinary : name ≠ "..") (followed : t.follow here parts = .ok l) : l.getLast? = some name := by
  induction parts generalizing here with
  | nil => cases named
  | cons part rest ih =>
    rw [follow_cons_iff] at followed
    cases rest with
    | nil =>
      obtain rfl : part = name := by simpa using named
      obtain ⟨_, ⟨up, _⟩ | ⟨_, _, followed⟩⟩ := followed
      · exact absurd up ordinary
      · cases followed
        simp
    | cons next rest =>
      have named : (next :: rest).getLast? = some name := by simpa using named
      obtain ⟨_, ⟨_, followed⟩ | ⟨_, _, followed⟩⟩ := followed
      · exact ih named followed
      · exact ih named followed

/-- A path whose last component is an ordinary name leads to a location of that name. -/
theorem reach_last {name : String} (named : p.parts.getLast? = some name) (ordinary : name ≠ "..")
    (reached : t.reach cwd p = .ok l) : l.getLast? = some name :=
  follow_last p.parts named ordinary (reach_eq_ok_iff.mp reached).2

/-- The location that a path without `..` means. -/
def placeOf (cwd : String) (p : Path) : Location := startOf cwd p ++ p.parts

theorem follow_plain (parts : List String) (plain : ".." ∉ parts)
    (followed : t.follow here parts = .ok l) : l = here ++ parts := by
  induction parts generalizing here with
  | nil => simpa [follow] using followed.symm
  | cons part rest ih =>
    rw [follow_cons_iff] at followed
    obtain ⟨_, ⟨up, _⟩ | ⟨_, _, followed⟩⟩ := followed
    · exact absurd (by simp [up]) plain
    · have later := ih (fun member => plain (List.mem_cons_of_mem _ member)) followed
      simpa using later

/-- Without `..` a path means one location, whatever the tree. -/
theorem reach_plain (plain : ".." ∉ p.parts) (reached : t.reach cwd p = .ok l) : l = placeOf cwd p :=
  follow_plain p.parts plain (reach_eq_ok_iff.mp reached).2

/-- Paths without `..` that mean different locations never lead to one. -/
theorem not_sameFile_of_plain (plain : ".." ∉ p.parts) (plain' : ".." ∉ q.parts)
    (different : placeOf cwd p ≠ placeOf cwd q) : ¬ t.SameFile cwd p q := by
  rintro ⟨l, reached, reached'⟩
  exact different ((reach_plain plain reached).symm.trans (reach_plain plain' reached'))

/-! ## Trees whose entries have a directory above them -/

/-- Every entry stands in a directory. -/
def WellFormed (t : FileTree) : Prop :=
  ∀ (l : Location) (name : String) (e : Entry), t.at? (l ++ [name]) = some e → t.at? l = some .dir

/-- A tree is well-formed if each of its entries, taken by itself, stands in a directory. -/
theorem wellFormed_of_entries (each : ∀ entry ∈ t.entries, t.at? entry.1.dropLast = some .dir) :
    t.WellFormed := by
  intro here name e entry
  have below : here ++ [name] ≠ [] := by simp
  rw [at?, if_neg below] at entry
  obtain ⟨before, after, split, _⟩ := List.lookup_eq_some_iff.mp entry
  have member : (here ++ [name], e) ∈ t.entries := by simp [split]
  simpa using each _ member

theorem WellFormed.dropLast (formed : t.WellFormed) {e : Entry} (entry : t.at? l = some e) :
    t.at? l.dropLast = some .dir := by
  by_cases root : l = []
  · rw [root]
    exact at?_root t
  · have split := List.dropLast_concat_getLast root
    exact formed l.dropLast (l.getLast root) e (split.symm ▸ entry)

theorem WellFormed.above (formed : t.WellFormed) (l : Location) {rest : List String}
    (below : rest ≠ []) {e : Entry} (entry : t.at? (l ++ rest) = some e) : t.at? l = some .dir := by
  induction rest generalizing l e with
  | nil => exact absurd rfl below
  | cons name rest ih =>
    cases rest with
    | nil => exact formed l name e entry
    | cons next rest =>
      have dir := ih (l ++ [name]) (List.cons_ne_nil _ _) (by simpa using entry)
      exact formed l name .dir dir

/-- In a well-formed tree a path without `..` leads to whatever stands at its place, provided that
it could be followed at all. -/
theorem follow_of_entry (formed : t.WellFormed) (parts : List String) (plain : ".." ∉ parts)
    (elsewhere : t'.follow here parts = .ok l) {e : Entry} (entry : t.at? (here ++ parts) = some e) :
    t.follow here parts = .ok l := by
  induction parts generalizing here with
  | nil => exact elsewhere
  | cons part rest ih =>
    rw [follow_cons_iff] at elsewhere ⊢
    obtain ⟨_, ⟨up, _⟩ | ⟨ordinary, short, elsewhere⟩⟩ := elsewhere
    · exact absurd (by simp [up]) plain
    · have dir := formed.above here (List.cons_ne_nil part rest) entry
      have later := ih (fun member => plain (List.mem_cons_of_mem _ member)) elsewhere
        (by simpa using entry)
      exact ⟨dir, .inr ⟨ordinary, short, later⟩⟩

end PltKeeper.FileTree
