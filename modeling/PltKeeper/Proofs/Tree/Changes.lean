import PltKeeper.Proofs.Tree.Lookup
import Mathlib.Tactic.SplitIfs

/-! How the changes that a run makes to a tree show through paths. A file that is written is seen by
exactly the paths that lead to its location; making directories keeps every file that is within
reach, and in a well-formed tree it brings no file within reach of a path without `..`. -/
namespace PltKeeper.FileTree

variable {t t' : FileTree} {cwd : String} {p q : Path} {l l' : Location} {bytes : List UInt8}

/-! ## Writing a file -/

theorem at?_put_file_dir (notDir : t.at? l ≠ some .dir) :
    (t.put l (.file bytes)).at? l' = some .dir ↔ t.at? l' = some .dir := by
  rw [at?_put t l l' _ (ne_root_of_at? notDir)]
  by_cases same : l' = l
  · subst l'
    simp [notDir]
  · simp [same]

/-- A file that is written moves no path. -/
theorem reach_put_file (notDir : t.at? l ≠ some .dir) :
    (t.put l (.file bytes)).reach cwd p = .ok l' ↔ t.reach cwd p = .ok l' :=
  ⟨reach_of_dirs fun _ dir => (at?_put_file_dir notDir).mp dir,
    reach_of_dirs fun _ dir => (at?_put_file_dir notDir).mpr dir⟩

/-- A file that is written is what the paths to its location find. -/
theorem bytesAt?_put_of_reach (notDir : t.at? l ≠ some .dir) (reached : t.reach cwd p = .ok l) :
    (t.put l (.file bytes)).bytesAt? cwd p = some bytes := by
  rw [bytesAt?_eq_some_iff]
  refine ⟨l, (reach_put_file notDir).mpr reached, ?_⟩
  rw [at?_put t l l _ (ne_root_of_at? notDir), if_pos rfl]

/-- Every other path finds what it found. -/
theorem bytesAt?_put_of_not_reach (notDir : t.at? l ≠ some .dir) (away : t.reach cwd p ≠ .ok l) :
    (t.put l (.file bytes)).bytesAt? cwd p = t.bytesAt? cwd p := by
  apply Option.ext
  intro found
  rw [bytesAt?_eq_some_iff, bytesAt?_eq_some_iff]
  have entries : ∀ l', t.reach cwd p = .ok l' →
      (t.put l (.file bytes)).at? l' = t.at? l' := by
    intro l' reached
    have different : l' ≠ l := fun same => away (same ▸ reached)
    rw [at?_put t l l' _ (ne_root_of_at? notDir), if_neg different]
  constructor
  · rintro ⟨l', reached, entry⟩
    have reached := (reach_put_file notDir).mp reached
    exact ⟨l', reached, by rw [← entries l' reached]; exact entry⟩
  · rintro ⟨l', reached, entry⟩
    exact ⟨l', (reach_put_file notDir).mpr reached, by rw [entries l' reached]; exact entry⟩

theorem WellFormed.put_file (formed : t.WellFormed) (notDir : t.at? l ≠ some .dir)
    (above : t.at? l.dropLast = some .dir) : (t.put l (.file bytes)).WellFormed := by
  intro here name e entry
  rw [at?_put_file_dir notDir]
  rw [at?_put t l _ _ (ne_root_of_at? notDir)] at entry
  by_cases same : here ++ [name] = l
  · subst l
    simpa using above
  · rw [if_neg same] at entry
    exact formed here name e entry

/-- What a change of a file's bytes amounts to. -/
theorem modify_eq_ok {change : List UInt8 → List UInt8} (changed : t.modify cwd p change = .ok t') :
    ∃ l, t.reach cwd p = .ok l ∧ t.at? l ≠ some .dir ∧
      (t.WellFormed → t.at? l.dropLast = some .dir) ∧
      t' = t.put l (.file (change ((t.bytesAt? cwd p).getD []))) := by
  obtain ⟨l, reached, changed⟩ := bind_ok_iff.mp (mapError_ok_iff.mp changed)
  have found := bytesAt?_of_reach reached
  split at changed
  · cases changed
  · rename_i held entry
    rw [entry] at found
    cases changed
    exact ⟨l, reached, by simp [entry], fun formed => formed.dropLast entry, by rw [found]; rfl⟩
  · rename_i absent
    rw [absent] at found
    split at changed
    · rename_i above
      cases changed
      exact ⟨l, reached, by simp [absent], fun _ => above, by rw [found]; rfl⟩
    · cases changed
    · cases changed

theorem WellFormed.modify {change : List UInt8 → List UInt8} (formed : t.WellFormed)
    (done : t.modify cwd p change = .ok t') : t'.WellFormed := by
  obtain ⟨l, _, notDir, above, rfl⟩ := modify_eq_ok done
  exact formed.put_file notDir (above formed)

/-- The changed file is seen under its new bytes by every path that leads to it. -/
theorem bytesAt?_modify {change : List UInt8 → List UInt8} (done : t.modify cwd p change = .ok t') :
    t'.bytesAt? cwd p = some (change ((t.bytesAt? cwd p).getD [])) ∧
      (∀ q, t.SameFile cwd q p → t'.bytesAt? cwd q = t'.bytesAt? cwd p) ∧
      ∀ q, ¬ t.SameFile cwd q p → t'.bytesAt? cwd q = t.bytesAt? cwd q := by
  obtain ⟨l, reached, notDir, _, rfl⟩ := modify_eq_ok done
  have written : (t.put l (.file (change ((t.bytesAt? cwd p).getD [])))).bytesAt? cwd p = some _ :=
    bytesAt?_put_of_reach notDir reached
  refine ⟨written, ?_, ?_⟩
  · rintro q ⟨l', first, second⟩
    rw [reached] at second
    cases second
    rw [written]
    exact bytesAt?_put_of_reach notDir first
  · intro q apart
    exact bytesAt?_put_of_not_reach notDir fun same => apart ⟨l, same, reached⟩

/-- Paths that end in different ordinary names lead to different files. -/
theorem not_sameFile_of_names {first second : String} (named : p.parts.getLast? = some first)
    (named' : q.parts.getLast? = some second) (ordinary : first ≠ "..") (ordinary' : second ≠ "..")
    (different : first ≠ second) : ¬ t.SameFile cwd p q := by
  rintro ⟨l, reached, reached'⟩
  have last := reach_last named ordinary reached
  rw [reach_last named' ordinary' reached'] at last
  exact different (Option.some.inj last).symm

/-! ## Making directories -/

/-- The second tree has all entries of the first one, and beyond them only directories. -/
structure Grows (t t' : FileTree) : Prop where
  /-- Every entry is still there. -/
  kept : ∀ {l e}, t.at? l = some e → t'.at? l = some e
  /-- No file is new. -/
  noFile : ∀ {l bytes}, t'.at? l = some (.file bytes) → t.at? l = some (.file bytes)

theorem Grows.refl (t : FileTree) : Grows t t := ⟨id, id⟩

theorem Grows.trans {t'' : FileTree} (first : Grows t t') (second : Grows t' t'') : Grows t t'' :=
  ⟨fun entry => second.kept (first.kept entry), fun entry => first.noFile (second.noFile entry)⟩

/-- What the making of one directory amounts to. -/
theorem makeDir_eq_ok (made : t.makeDir cwd p = .ok t') :
    ∃ l, t.reach cwd p = .ok l ∧ t.at? l = none ∧ t.at? l.dropLast = some .dir ∧
      t' = t.put l .dir := by
  obtain ⟨l, reached, made⟩ := bind_ok_iff.mp made
  split at made
  · cases made
  · rename_i absent
    split at made
    · rename_i above
      exact ⟨l, reached, absent, above, (Except.ok.inj made).symm⟩
    · cases made
    · cases made

theorem grows_put_dir (absent : t.at? l = none) : Grows t (t.put l .dir) := by
  have notDir : t.at? l ≠ some .dir := by simp [absent]
  have notRoot := ne_root_of_at? notDir
  constructor
  · intro l' e entry
    rw [at?_put t l l' _ notRoot, if_neg]
    · exact entry
    · rintro rfl
      rw [absent] at entry
      cases entry
  · intro l' bytes entry
    rw [at?_put t l l' _ notRoot] at entry
    split at entry
    · cases entry
    · exact entry

theorem WellFormed.put_dir (formed : t.WellFormed) (absent : t.at? l = none)
    (above : t.at? l.dropLast = some .dir) : (t.put l .dir).WellFormed := by
  have notDir : t.at? l ≠ some .dir := by simp [absent]
  have notRoot := ne_root_of_at? notDir
  intro here name e entry
  apply (grows_put_dir absent).kept
  rw [at?_put t l _ _ notRoot] at entry
  by_cases same : here ++ [name] = l
  · subst l
    simpa using above
  · rw [if_neg same] at entry
    exact formed here name e entry

/-- What holds of a tree and is kept by every directory made on the way holds after all are made. -/
theorem makeDirs_induction_front {P : FileTree → Prop} (start : P t) (p : Path)
    (step : ∀ {t t' : FileTree} {front : List String}, front <+: p.parts → P t →
      t.makeDir cwd ⟨p.anchor, front⟩ = .ok t' → P t') : P (t.makeDirs cwd p).2 := by
  have accepted : ∀ (t : FileTree) (p : Path) (r : Refusal), (t.acceptDir cwd p r).2 = t := by
    intro t p r
    unfold acceptDir
    split <;> rfl
  have each : ∀ parts (t : FileTree), parts <:+ p.parts.reverse → P t →
      P (makeDirsFrom cwd p.anchor parts t).2 := by
    intro parts
    induction parts with
    | nil => intro t _ holds; exact holds
    | cons part up ih =>
      intro t inside holds
      have front : (part :: up).reverse <+: p.parts := by
        rw [← List.reverse_reverse p.parts]
        exact List.reverse_prefix.mpr inside
      simp only [makeDirsFrom]
      split
      · rename_i made
        exact step front holds made
      · have above := ih t ((List.suffix_cons part up).trans inside) holds
        split
        · rename_i failed
          simpa only [failed] using above
        · rename_i done
          simp only [done] at above
          split
          · rename_i made
            exact step front above made
          · simpa only [accepted] using above
      · simpa only [accepted] using holds
  exact each _ t (List.suffix_refl _) start

/-- What holds of a tree and is kept by every directory made holds after all are made. -/
theorem makeDirs_induction {P : FileTree → Prop} (start : P t)
    (step : ∀ {t t' : FileTree} {p : Path}, P t → t.makeDir cwd p = .ok t' → P t') (p : Path) :
    P (t.makeDirs cwd p).2 :=
  makeDirs_induction_front start p fun _ => step

theorem makeDirs_grows (t : FileTree) (cwd : String) (p : Path) : Grows t (t.makeDirs cwd p).2 := by
  refine makeDirs_induction (P := Grows t) (.refl t) ?_ p
  intro t₁ t₂ q grown made
  obtain ⟨l, _, absent, _, rfl⟩ := makeDir_eq_ok made
  exact grown.trans (grows_put_dir absent)

theorem WellFormed.makeDirs (formed : t.WellFormed) (cwd : String) (p : Path) :
    (t.makeDirs cwd p).2.WellFormed := by
  refine makeDirs_induction (P := WellFormed) formed ?_ p
  intro t₁ t₂ q formed made
  obtain ⟨l, _, absent, above, rfl⟩ := makeDir_eq_ok made
  exact formed.put_dir absent above

/-- A file that is within reach stays so when directories are made. -/
theorem Grows.bytesAt? (grown : Grows t t') (found : t.bytesAt? cwd p = some bytes) :
    t'.bytesAt? cwd p = some bytes := by
  obtain ⟨l, reached, entry⟩ := bytesAt?_eq_some_iff.mp found
  exact bytesAt?_eq_some_iff.mpr ⟨l, reach_of_dirs (fun _ dir => grown.kept dir) reached, grown.kept entry⟩

/-- Making directories in a well-formed tree changes nothing for a path without `..`. -/
theorem Grows.bytesAt?_plain (grown : Grows t t') (formed : t.WellFormed) (plain : ".." ∉ p.parts) :
    t'.bytesAt? cwd p = t.bytesAt? cwd p := by
  apply Option.ext
  intro bytes
  constructor
  · intro found
    obtain ⟨l, reached, entry⟩ := bytesAt?_eq_some_iff.mp found
    have entry := grown.noFile entry
    obtain ⟨spelled, followed⟩ := reach_eq_ok_iff.mp reached
    have place : l = startOf cwd p ++ p.parts := follow_plain p.parts plain followed
    have before := follow_of_entry formed p.parts plain followed (place ▸ entry)
    exact bytesAt?_eq_some_iff.mpr ⟨l, reach_eq_ok_iff.mpr ⟨spelled, before⟩, entry⟩
  · exact grown.bytesAt?

/-! ## Copying a file -/

/-- What a copy amounts to: it is refused for a file and itself, and it writes the bytes it read. -/
theorem copy_eq_ok (copied : t.copy cwd p q = .ok t') :
    ∃ bytes, t.bytesAt? cwd p = some bytes ∧ t.write cwd q bytes = .ok t' ∧ ¬ t.SameFile cwd p q := by
  unfold copy at copied
  simp only at copied
  split_ifs at copied with same
  obtain ⟨bytes, read, written⟩ := bind_ok_iff.mp copied
  have held := read_eq_ok read
  refine ⟨bytes, held, written, ?_⟩
  rintro ⟨l, reached, reached'⟩
  obtain ⟨here, reachedHere, entry⟩ := bytesAt?_eq_some_iff.mp held
  cases reached.symm.trans reachedHere
  simp [reached, reached', entry] at same

end PltKeeper.FileTree
