import PltKeeper.Proofs.Plt.Names

/-! Files by their locations. A path without `..` that leads to a file leads to the one at its place, and
in a well-formed tree it does so whenever the file is there. What is done to a tree beside the calls of
a backend leaves all files as they are, but for the warnings file. -/
namespace PltKeeper.FileTree

variable {t t' t'' : FileTree} {cwd : String} {p q : Path} {l l' : Location} {bytes : List UInt8}

/-- The bytes of the regular file at a location, if there is one. -/
def fileAt? (t : FileTree) (l : Location) : Option (List UInt8) := (t.at? l).bind Entry.bytes?

/-- A location with the name of a PLT. -/
def IsPlt (l : Location) : Prop := ∃ name, l.getLast? = some name ∧ pltEnding <:+ name.toList

/-- A location with the name of a warnings file. -/
def IsReport (l : Location) : Prop := ∃ name, l.getLast? = some name ∧ reportEnding <:+ name.toList

theorem fileAt?_eq_some_iff : t.fileAt? l = some bytes ↔ t.at? l = some (.file bytes) := by
  unfold fileAt?
  cases t.at? l with
  | none => simp
  | some e => cases e <;> simp [Entry.bytes?]

theorem not_isReport_of_isPlt (plt : IsPlt l) : ¬ IsReport l := by
  obtain ⟨name, last, ends⟩ := plt
  rintro ⟨name', last', ends'⟩
  cases last.symm.trans last'
  have nested : pltEnding <:+ reportEnding := List.suffix_of_suffix_length_le ends ends' (by decide)
  exact absurd nested (by decide)

/-- The place of a PLT's path has the name of a PLT. -/
theorem isPlt_placeOf (named : p.EndsWith pltEnding) : IsPlt (placeOf cwd p) := by
  obtain ⟨name, last, ends⟩ := named
  refine ⟨name, ?_, ends⟩
  rw [placeOf, List.getLast?_append, last]
  rfl

/-- Wherever the path of a warnings file leads, there is the name of one. -/
theorem isReport_of_reach (named : p.EndsWith reportEnding) (reached : t.reach cwd p = .ok l) : IsReport l := by
  obtain ⟨name, last, ends⟩ := named
  have ordinary : name ≠ ".." := by
    rintro rfl
    exact absurd ends.length_le (by decide)
  exact ⟨name, reach_last last ordinary reached, ends⟩

/-! ## Paths without `..` -/

/-- What a path finds is at its place, -/
theorem fileAt?_of_bytesAt? (plain : ".." ∉ p.parts) (found : t.bytesAt? cwd p = some bytes) :
    t.fileAt? (placeOf cwd p) = some bytes := by
  obtain ⟨l, reached, entry⟩ := bytesAt?_eq_some_iff.mp found
  obtain rfl := reach_plain plain reached
  exact fileAt?_eq_some_iff.mpr entry

/-- and what is at its place is found, if the path can be followed at all. -/
theorem bytesAt?_of_fileAt? (formed : t.WellFormed) (plain : ".." ∉ p.parts) (reached : t'.reach cwd p = .ok l)
    (there : t.fileAt? (placeOf cwd p) = some bytes) : t.bytesAt? cwd p = some bytes := by
  obtain ⟨spelled, followed⟩ := reach_eq_ok_iff.mp reached
  obtain rfl : l = placeOf cwd p := follow_plain p.parts plain followed
  have entry := fileAt?_eq_some_iff.mp there
  have here := follow_of_entry formed p.parts plain followed entry
  exact bytesAt?_eq_some_iff.mpr ⟨placeOf cwd p, reach_eq_ok_iff.mpr ⟨spelled, here⟩, entry⟩

/-! ## Files that stay -/

/-- The files of a kind are kept. -/
def Keeps (kind : Location → Prop) (t t' : FileTree) : Prop :=
  ∀ l, kind l → ∀ bytes, t.fileAt? l = some bytes → t'.fileAt? l = some bytes

theorem Keeps.refl (kind : Location → Prop) (t : FileTree) : t.Keeps kind t := fun _ _ _ there => there

theorem Keeps.trans {kind : Location → Prop} (first : t.Keeps kind t') (second : t'.Keeps kind t'') :
    t.Keeps kind t'' :=
  fun l member bytes there => second l member bytes (first l member bytes there)

theorem Keeps.mono {kind kind' : Location → Prop} (keeps : t.Keeps kind t') (fewer : ∀ l, kind' l → kind l) :
    t.Keeps kind' t' :=
  fun l member bytes there => keeps l (fewer l member) bytes there

/-- No file but warnings files has been touched, and every entry still stands in a directory. -/
structure Quiet (t t' : FileTree) : Prop where
  files : ∀ l, ¬ IsReport l → t'.fileAt? l = t.fileAt? l
  formed : t.WellFormed → t'.WellFormed

theorem Quiet.refl (t : FileTree) : t.Quiet t := ⟨fun _ _ => rfl, id⟩

theorem Quiet.trans (first : t.Quiet t') (second : t'.Quiet t'') : t.Quiet t'' :=
  ⟨fun l other => (second.files l other).trans (first.files l other),
    fun formed => second.formed (first.formed formed)⟩

theorem Quiet.keeps (quiet : t.Quiet t') : t.Keeps (fun l => ¬ IsReport l) t' :=
  fun l other _ there => (quiet.files l other).trans there

/-- What a PLT's path finds is the same. -/
theorem Quiet.bytesAt? (quiet : t.Quiet t') (formed : t.WellFormed) (plain : ".." ∉ p.parts)
    (named : p.EndsWith pltEnding) : t'.bytesAt? cwd p = t.bytesAt? cwd p := by
  have same : t'.fileAt? (placeOf cwd p) = t.fileAt? (placeOf cwd p) :=
    quiet.files _ (not_isReport_of_isPlt (isPlt_placeOf named))
  refine Option.ext fun bytes => ⟨fun found => ?_, fun found => ?_⟩
  · obtain ⟨l, reached, -⟩ := bytesAt?_eq_some_iff.mp found
    exact bytesAt?_of_fileAt? formed plain reached (same.symm.trans (fileAt?_of_bytesAt? plain found))
  · obtain ⟨l, reached, -⟩ := bytesAt?_eq_some_iff.mp found
    exact bytesAt?_of_fileAt? (quiet.formed formed) plain reached (same.trans (fileAt?_of_bytesAt? plain found))

theorem quiet_makeDirs (t : FileTree) (cwd : String) (p : Path) : t.Quiet (t.makeDirs cwd p).2 := by
  have grown := makeDirs_grows t cwd p
  refine ⟨fun l _ => Option.ext fun bytes => ?_, fun formed => formed.makeDirs cwd p⟩
  rw [fileAt?_eq_some_iff, fileAt?_eq_some_iff]
  exact ⟨grown.noFile, grown.kept⟩

/-- A file that is changed is the only one. -/
theorem fileAt?_modify {change : List UInt8 → List UInt8} (done : t.modify cwd p change = .ok t')
    (reached : t.reach cwd p = .ok l) (other : l' ≠ l) : t'.fileAt? l' = t.fileAt? l' := by
  obtain ⟨here, reached', notDir, -, rfl⟩ := modify_eq_ok done
  cases reached.symm.trans reached'
  unfold fileAt?
  rw [at?_put t l l' _ (ne_root_of_at? notDir), if_neg other]

theorem quiet_modify {change : List UInt8 → List UInt8} (named : p.EndsWith reportEnding)
    (done : t.modify cwd p change = .ok t') : t.Quiet t' := by
  refine ⟨fun l other => ?_, fun formed => formed.modify done⟩
  obtain ⟨here, reached, -⟩ := modify_eq_ok done
  refine fileAt?_modify done reached ?_
  rintro rfl
  exact other (isReport_of_reach named reached)

/-- A file that is copied to a place where none is takes nothing away. -/
theorem keeps_copy (copied : t.copy cwd p q = .ok t')
    (free : ∀ l, t.reach cwd q = .ok l → ¬ t.SameFile cwd p q → t.fileAt? l = none) (kind : Location → Prop) :
    t.Keeps kind t' := by
  obtain ⟨bytes, -, written, apart⟩ := copy_eq_ok copied
  obtain ⟨l, reached, -⟩ := modify_eq_ok written
  intro l' _ bytes' there
  by_cases here : l' = l
  · subst here
    exact nomatch (free l' reached apart).symm.trans there
  · rw [fileAt?_modify written reached here]
    exact there

end PltKeeper.FileTree
