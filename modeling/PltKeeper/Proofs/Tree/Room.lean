import PltKeeper.Proofs.Text.Surrogate
import PltKeeper.Proofs.Tree.Changes

/-! Room for files. A tree has room for files where, by making directories alone, one gets to a tree
in which every one of them can be written. Whatever is then made or written leads towards that tree:
a directory of a file can be made when it is needed, and no file stands in the way of another. -/
namespace PltKeeper.FileTree

variable {t t' room : FileTree} {cwd : String} {p q : Path} {files : List Path} {l m here : Location}
  {parts : List String} {bytes : List UInt8}

/-- A path at which a file can be written: its directory is there, and it is none itself. -/
def Writable (t : FileTree) (cwd : String) (p : Path) : Prop :=
  ∃ l, t.reach cwd p = .ok l ∧ t.at? l ≠ some .dir ∧ t.at? l.dropLast = some .dir

/-- Every directory and every one of the files can be made. -/
def HasRoom (t : FileTree) (cwd : String) (files : List Path) : Prop :=
  ∃ room, t.Grows room ∧ ∀ p ∈ files, t.at? (startOf cwd p) = some .dir ∧ room.Writable cwd p

/-- What is a directory in the first tree is one in the second, and no file of the first is. -/
structure FitsInto (t room : FileTree) : Prop where
  dirs : ∀ {l}, t.at? l = some .dir → room.at? l = some .dir
  clear : ∀ {l bytes}, t.at? l = some (.file bytes) → room.at? l ≠ some .dir

/-- A tree on its way to one in which all the files can be written. -/
structure Roomy (room : FileTree) (cwd : String) (files : List Path) (t : FileTree) : Prop where
  formed : t.WellFormed
  fits : t.FitsInto room
  starts : ∀ p ∈ files, t.at? (startOf cwd p) = some .dir
  writable : ∀ p ∈ files, room.Writable cwd p

theorem HasRoom.roomy (space : t.HasRoom cwd files) (formed : t.WellFormed) :
    ∃ room, Roomy room cwd files t := by
  obtain ⟨room, grown, each⟩ := space
  have fits : t.FitsInto room := ⟨fun dir => grown.kept dir, fun file => by simp [grown.kept file]⟩
  exact ⟨room, formed, fits, fun p member => (each p member).1, fun p member => (each p member).2⟩

/-! ## Files that can be written -/

theorem Writable.modify (writable : t.Writable cwd p) (change : List UInt8 → List UInt8) :
    ∃ t', t.modify cwd p change = .ok t' := by
  obtain ⟨l, reached, notDir, above⟩ := writable
  unfold FileTree.modify
  cases entry : t.at? l with
  | none =>
    simp [reached, entry, above, bind, Except.bind, Except.mapError, pure, Except.pure]
  | some e =>
    cases e with
    | dir => exact absurd entry notDir
    | file held => simp [reached, entry, bind, Except.bind, Except.mapError, pure, Except.pure]

/-- A file that is there can be written. -/
theorem WellFormed.writable (formed : t.WellFormed) (found : t.bytesAt? cwd p = some bytes) :
    t.Writable cwd p := by
  obtain ⟨l, reached, entry⟩ := bytesAt?_eq_some_iff.mp found
  have notDir : t.at? l ≠ some .dir := by simp [entry]
  refine ⟨l, reached, notDir, ?_⟩
  have split := List.dropLast_concat_getLast (ne_root_of_at? notDir)
  exact formed l.dropLast (l.getLast (ne_root_of_at? notDir)) (.file bytes) (split.symm ▸ entry)

/-- Where all the files are there already, no room has to be made. -/
theorem WellFormed.hasRoom (formed : t.WellFormed)
    (there : ∀ p ∈ files, t.at? (startOf cwd p) = some .dir ∧ (t.bytesAt? cwd p).isSome) :
    t.HasRoom cwd files := by
  refine ⟨t, .refl t, fun p member => ⟨(there p member).1, ?_⟩⟩
  obtain ⟨bytes, found⟩ := Option.isSome_iff_exists.mp (there p member).2
  exact formed.writable found

/-- A copy needs a file to read, and another place to write. -/
theorem Writable.copy (writable : t.Writable cwd q) (found : t.bytesAt? cwd p = some bytes)
    (apart : ¬ t.SameFile cwd p q) : ∃ t', t.copy cwd p q = .ok t' := by
  obtain ⟨t', written⟩ := writable.modify fun _ => bytes
  obtain ⟨source, reached, entry⟩ := bytesAt?_eq_some_iff.mp found
  obtain ⟨target, reached', -⟩ := writable
  have different : source ≠ target := fun same => apart ⟨target, same ▸ reached, reached'⟩
  have read : t.read cwd p = .ok bytes := by
    simp [FileTree.read, find, reached, entry, bind, Except.bind, pure, Except.pure, Except.mapError]
  refine ⟨t', ?_⟩
  unfold FileTree.copy
  simpa [reached, reached', different, read, bind, Except.bind, write] using written

/-! ## Following a path towards the room -/

theorem follow_append_iff {front back : List String} :
    t.follow here (front ++ back) = .ok l ↔ ∃ m, t.follow here front = .ok m ∧ t.follow m back = .ok l := by
  induction front generalizing here with
  | nil => simp [follow]
  | cons part rest ih =>
    rw [List.cons_append, follow_cons_iff, ih, ih]
    constructor
    · rintro ⟨dir, ⟨up, m, first, second⟩ | ⟨ordinary, short, m, first, second⟩⟩
      · exact ⟨m, follow_cons_iff.mpr ⟨dir, .inl ⟨up, first⟩⟩, second⟩
      · exact ⟨m, follow_cons_iff.mpr ⟨dir, .inr ⟨ordinary, short, first⟩⟩, second⟩
    · rintro ⟨m, first, second⟩
      obtain ⟨dir, ⟨up, first⟩ | ⟨ordinary, short, first⟩⟩ := follow_cons_iff.mp first
      · exact ⟨dir, .inl ⟨up, m, first, second⟩⟩
      · exact ⟨dir, .inr ⟨ordinary, short, m, first, second⟩⟩

/-- The last step of a path leaves a directory, for the one above it or for what it holds. -/
theorem follow_concat (followed : t.follow here (parts ++ [part]) = .ok l) :
    ∃ m, t.follow here parts = .ok m ∧ t.at? m = some .dir ∧ t.follow m [part] = .ok l ∧
      (l = m.dropLast ∨ l = m ++ [part]) := by
  obtain ⟨m, front, last⟩ := follow_append_iff.mp followed
  obtain ⟨dir, ⟨_, ended⟩ | ⟨_, _, ended⟩⟩ := follow_cons_iff.mp last
  · exact ⟨m, front, dir, last, .inl (by simpa [follow] using ended.symm)⟩
  · exact ⟨m, front, dir, last, .inr (by simpa [follow] using ended.symm)⟩

/-- Where the room can be followed, all that can be missing is a directory. -/
theorem FitsInto.follow (fits : t.FitsInto room) (followed : room.follow here parts = .ok l) :
    t.follow here parts = .ok l ∨ t.follow here parts = .error .missing := by
  induction parts generalizing here with
  | nil => exact .inl followed
  | cons part rest ih =>
    obtain ⟨dir, next⟩ := follow_cons_iff.mp followed
    rw [FileTree.follow]
    cases entry : t.at? here with
    | none => exact .inr rfl
    | some e =>
      cases e with
      | file bytes => exact absurd dir (fits.clear entry)
      | dir =>
        rcases next with ⟨up, next⟩ | ⟨ordinary, short, next⟩
        · simpa [up] using ih next
        · simpa [ordinary, short] using ih next

/-! ## Making the directories of a path -/

theorem FitsInto.put_dir (fits : t.FitsInto room) (absent : t.at? l = none)
    (dir : room.at? l = some .dir) : (t.put l .dir).FitsInto room := by
  have notRoot : l ≠ [] := ne_root_of_at? (t := t) (by simp [absent])
  constructor
  · intro l' entry
    rw [at?_put t l l' _ notRoot] at entry
    by_cases same : l' = l
    · rw [same]
      exact dir
    · rw [if_neg same] at entry
      exact fits.dirs entry
  · intro l' bytes entry
    rw [at?_put t l l' _ notRoot] at entry
    by_cases same : l' = l
    · simp [same] at entry
    · rw [if_neg same] at entry
      exact fits.clear entry

theorem FitsInto.put_file (fits : t.FitsInto room) (notDir : t.at? l ≠ some .dir)
    (clear : room.at? l ≠ some .dir) : (t.put l (.file bytes)).FitsInto room := by
  constructor
  · intro l' entry
    exact fits.dirs ((at?_put_file_dir notDir).mp entry)
  · intro l' held entry
    rw [at?_put t l l' _ (ne_root_of_at? notDir)] at entry
    by_cases same : l' = l
    · rw [same]
      exact clear
    · rw [if_neg same] at entry
      exact fits.clear entry

theorem checkSpelling_eq_ok_iff : checkSpelling p = .ok () ↔
    (∀ part ∈ p.parts, Text.IsUsable part) ∧ p.text.utf8ByteSize < pathLimit := by
  unfold checkSpelling
  by_cases unusable : (p.parts.any fun part => part.toList.any Text.isUnusable) = true
  · rw [if_pos unusable]
    obtain ⟨part, member, holds⟩ := List.any_eq_true.mp unusable
    have notUsable : ¬ ∀ part ∈ p.parts, Text.IsUsable part :=
      fun usable => Text.not_isUsable_iff.mpr holds (usable part member)
    simp [notUsable]
  · rw [if_neg unusable]
    have usable : ∀ part ∈ p.parts, Text.IsUsable part := by simpa [Text.IsUsable] using unusable
    by_cases long : pathLimit ≤ p.text.utf8ByteSize
    · simp [long]
    · simp only [long, if_false, true_iff]
      exact ⟨usable, Nat.lt_of_not_le long⟩

/-- A path that can be spelled can be up to any of its components. -/
theorem checkSpelling_front {anchor : Anchor} {front back : List String}
    (spelled : checkSpelling ⟨anchor, front ++ back⟩ = .ok ()) :
    checkSpelling ⟨anchor, front⟩ = .ok () := by
  obtain ⟨usable, short⟩ := checkSpelling_eq_ok_iff.mp spelled
  refine checkSpelling_eq_ok_iff.mpr ⟨fun part member => usable part (List.mem_append_left back member), ?_⟩
  by_cases empty : front = []
  · subst front
    cases anchor <;> decide
  · by_cases whole : back = []
    · simpa [whole] using short
    · have some : front.isEmpty = false := by simpa using empty
      have more : (front ++ back).isEmpty = false := by simp [empty]
      simp only [Path.text, some, more, Bool.and_false, Bool.false_eq_true, if_false,
        String.utf8ByteSize_append, String.intercalate_append_of_ne_nil empty whole] at short ⊢
      omega

/-- A path to a directory that is there in the second tree; all that was made are directories. -/
structure Prepared (room : FileTree) (cwd : String) (p : Path) (l : Location) (t t' : FileTree) : Prop where
  fits : t'.FitsInto room
  formed : t'.WellFormed
  grown : t.Grows t'
  followed : t'.follow (startOf cwd p) p.parts = .ok l
  dir : t'.at? l = some .dir

/-- A directory that can be followed to is made, or is there and taken as made. -/
theorem FitsInto.makeDir (fits : t.FitsInto room) (formed : t.WellFormed)
    (spelled : checkSpelling p = .ok ()) (split : p.parts = parts ++ [part])
    (followed : t.follow (startOf cwd p) p.parts = .ok l) (dir : room.at? l = some .dir) :
    ∃ t', Prepared room cwd p l t t' ∧ (t.makeDir cwd p = .ok t' ∨
      t.makeDir cwd p = .error .alreadyThere ∧ t.acceptDir cwd p .alreadyThere = (.ok (), t')) := by
  have reached : t.reach cwd p = .ok l := reach_eq_ok_iff.mpr ⟨spelled, followed⟩
  cases entry : t.at? l with
  | some e =>
    cases e with
    | file bytes => exact absurd dir (fits.clear entry)
    | dir =>
      refine ⟨t, ⟨fits, formed, .refl t, followed, entry⟩, .inr ⟨?_, ?_⟩⟩
      · simp [FileTree.makeDir, reached, entry, bind, Except.bind]
      · simp [acceptDir, isDir, test, find, reached, entry, bind, Except.bind, pure, Except.pure]
  | none =>
    have above : t.at? l.dropLast = some .dir := by
      obtain ⟨m, _, above, _, upward | within⟩ := follow_concat (split ▸ followed)
      · rw [upward, formed.dropLast above] at entry
        cases entry
      · simpa [within] using above
    have grown := grows_put_dir entry
    refine ⟨t.put l .dir, ⟨fits.put_dir entry dir, formed.put_dir entry above, grown, ?_, ?_⟩, .inl ?_⟩
    · exact follow_of_dirs (fun _ dir => grown.kept dir) p.parts followed
    · rw [at?_put t l l _ (ne_root_of_at? (t := t) (by simp [entry])), if_pos rfl]
    · simp [FileTree.makeDir, reached, entry, above, bind, Except.bind, pure, Except.pure]

/-- All directories of a path that leads to one in the room can be made, innermost component first. -/
theorem FitsInto.makeDirsFrom (fits : t.FitsInto room) (formed : t.WellFormed) (anchor : Anchor)
    (up : List String) (start : t.at? (startOf cwd ⟨anchor, up.reverse⟩) = some .dir)
    (spelled : checkSpelling ⟨anchor, up.reverse⟩ = .ok ())
    (followed : room.follow (startOf cwd ⟨anchor, up.reverse⟩) up.reverse = .ok l)
    (dir : room.at? l = some .dir) :
    ∃ t', FileTree.makeDirsFrom cwd anchor up t = (.ok (), t') ∧
      Prepared room cwd ⟨anchor, up.reverse⟩ l t t' := by
  induction up generalizing l with
  | nil =>
    cases followed
    exact ⟨t, rfl, fits, formed, .refl t, rfl, start⟩
  | cons part up ih =>
    have split : (part :: up).reverse = up.reverse ++ [part] := List.reverse_cons
    obtain ⟨m, front, above, last, -⟩ := follow_concat (split ▸ followed)
    -- The induction is on what is above; it is needed only where something above is missing.
    rcases fits.follow followed with direct | absent
    · obtain ⟨t', prepared, made | ⟨there, accepted⟩⟩ := fits.makeDir formed spelled split direct dir
      · exact ⟨t', by simp only [FileTree.makeDirsFrom, made], prepared⟩
      · exact ⟨t', by simp only [FileTree.makeDirsFrom, there, accepted], prepared⟩
    · have unreached : t.reach cwd ⟨anchor, (part :: up).reverse⟩ = .error .missing := by
        unfold reach
        rw [spelled]
        exact absent
      have missing : t.makeDir cwd ⟨anchor, (part :: up).reverse⟩ = .error .missing := by
        unfold FileTree.makeDir
        rw [unreached]
        rfl
      obtain ⟨t₁, madeAbove, before⟩ := ih start (checkSpelling_front (split ▸ spelled)) front above
      have direct : t₁.follow (startOf cwd ⟨anchor, (part :: up).reverse⟩) (part :: up).reverse = .ok l := by
        rw [split]
        refine follow_append_iff.mpr ⟨m, before.followed, ?_⟩
        exact follow_cons_iff.mpr ⟨before.dir, (follow_cons_iff.mp last).2⟩
      obtain ⟨t', prepared, made | ⟨there, accepted⟩⟩ :=
        before.fits.makeDir before.formed spelled split direct dir
      · refine ⟨t', by simp only [FileTree.makeDirsFrom, missing, madeAbove, made], ?_⟩
        exact { prepared with grown := before.grown.trans prepared.grown }
      · refine ⟨t', by simp only [FileTree.makeDirsFrom, missing, madeAbove, there, accepted], ?_⟩
        exact { prepared with grown := before.grown.trans prepared.grown }

/-! ## A tree on its way -/

/-- The directory of a file can be made, and then the file can be written. -/
theorem Roomy.makeDirs (roomy : Roomy room cwd files t) (member : p ∈ files) :
    ∃ t', t.makeDirs cwd p.parent = (.ok (), t') ∧ Roomy room cwd files t' ∧ t.Grows t' ∧
      t'.Writable cwd p := by
  obtain ⟨l, reached, notDir, _⟩ := roomy.writable p member
  obtain ⟨spelled, followed⟩ := reach_eq_ok_iff.mp reached
  have start := roomy.starts p member
  obtain ⟨front, last, split⟩ : ∃ front last, p.parts = front ++ [last] := by
    rcases List.eq_nil_or_concat p.parts with empty | ⟨front, last, split⟩
    · rw [empty] at followed
      cases followed
      exact absurd (roomy.fits.dirs start) notDir
    · exact ⟨front, last, by simpa using split⟩
  obtain ⟨m, above, dir, step, ending⟩ := follow_concat (split ▸ followed)
  have parent : p.parent = ⟨p.anchor, front⟩ := by simp [Path.parent, split]
  have whole : p = ⟨p.anchor, front ++ [last]⟩ := by rw [← split]
  have spelledParent : checkSpelling ⟨p.anchor, front.reverse.reverse⟩ = .ok () := by
    rw [List.reverse_reverse]
    exact checkSpelling_front (whole ▸ spelled)
  have madeFrom := roomy.fits.makeDirsFrom roomy.formed p.anchor front.reverse start spelledParent
    (by rw [List.reverse_reverse]; exact above) dir
  rw [List.reverse_reverse] at madeFrom
  obtain ⟨t', made, prepared⟩ := madeFrom
  have grown := prepared.grown
  refine ⟨t', ?_, ⟨prepared.formed, prepared.fits, fun q member => grown.kept (roomy.starts q member),
    roomy.writable⟩, grown, l, ?_, fun dir => notDir (prepared.fits.dirs dir), ?_⟩
  · rw [parent]
    exact made
  · refine reach_eq_ok_iff.mpr ⟨spelled, ?_⟩
    rw [split]
    exact follow_append_iff.mpr ⟨m, prepared.followed,
      follow_cons_iff.mpr ⟨prepared.dir, (follow_cons_iff.mp step).2⟩⟩
  · rcases ending with upward | within
    · have up := prepared.formed.dropLast prepared.dir
      exact absurd (prepared.fits.dirs (upward ▸ up)) notDir
    · simpa [within] using prepared.dir

/-- The place of one of the files is no directory in the room. -/
theorem Roomy.clear (roomy : Roomy room cwd files t) (member : p ∈ files) (reached : t.reach cwd p = .ok l) :
    room.at? l ≠ some .dir := by
  obtain ⟨l', inRoom, notDir, _⟩ := roomy.writable p member
  rw [reach_of_dirs (fun _ dir => roomy.fits.dirs dir) reached] at inRoom
  cases inRoom
  exact notDir

/-- Writing one of the files takes no room from the others. -/
theorem Roomy.modify {change : List UInt8 → List UInt8} (roomy : Roomy room cwd files t)
    (member : p ∈ files) (done : t.modify cwd p change = .ok t') : Roomy room cwd files t' := by
  obtain ⟨l, reached, notDir, above, rfl⟩ := modify_eq_ok done
  have clear := roomy.clear member reached
  refine ⟨roomy.formed.put_file notDir (above roomy.formed), roomy.fits.put_file notDir clear, ?_,
    roomy.writable⟩
  exact fun q member => (at?_put_file_dir notDir).mpr (roomy.starts q member)

/-- A file that can be written still can while directories stay. -/
theorem Writable.later (writable : t.Writable cwd p) (roomy : Roomy room cwd files t')
    (member : p ∈ files) (dirs : ∀ l, t.at? l = some .dir → t'.at? l = some .dir) : t'.Writable cwd p := by
  obtain ⟨l, reached, _, above⟩ := writable
  have reached := reach_of_dirs dirs reached
  exact ⟨l, reached, fun dir => roomy.clear member reached (roomy.fits.dirs dir), dirs _ above⟩

theorem dirs_of_modify {change : List UInt8 → List UInt8} (done : t.modify cwd p change = .ok t') (l : Location)
    (dir : t.at? l = some .dir) : t'.at? l = some .dir := by
  obtain ⟨_, _, notDir, _, rfl⟩ := modify_eq_ok done
  exact (at?_put_file_dir notDir).mpr dir

/-- Whether one of the files is there can be told. -/
theorem Roomy.isFile (roomy : Roomy room cwd files t) (member : p ∈ files) :
    ∃ there, t.isFile cwd p = .ok there := by
  obtain ⟨l, reached, -⟩ := roomy.writable p member
  obtain ⟨spelled, followed⟩ := reach_eq_ok_iff.mp reached
  unfold FileTree.isFile test find reach
  rw [spelled]
  rcases roomy.fits.follow followed with direct | absent
  · cases entry : t.at? l <;> simp [direct, entry, bind, Except.bind, pure, Except.pure]
  · simp [absent, bind, Except.bind]

end PltKeeper.FileTree
