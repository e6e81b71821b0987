import PltKeeper.Proofs.Tree.Changes

/-! Trees that differ in the bytes of one file only. Nothing but reading this file tells them apart:
every path leads to the same location in both, and is refused for the same reason; the same directories
are made, and the same files are copied. -/
namespace PltKeeper.FileTree

variable {t t' u u' : FileTree} {cwd : String} {out p q : Path} {l l' here : Location}

/-- Two trees that agree but for the bytes of one file, which is there in both. -/
structure AgreesOff (t : FileTree) (l : Location) (t' : FileTree) : Prop where
  others : t'.entries.filter (·.1 ≠ l) = t.entries.filter (·.1 ≠ l)
  file : ∃ bytes, t.at? l = some (.file bytes)
  file' : ∃ bytes, t'.at? l = some (.file bytes)

/-- Two trees that agree but for the bytes of the file that a path leads to. -/
def SameBut (cwd : String) (out : Path) (t t' : FileTree) : Prop :=
  ∃ l, t.reach cwd out = .ok l ∧ t.AgreesOff l t'

namespace AgreesOff

theorem symm (agrees : t.AgreesOff l t') : t'.AgreesOff l t := ⟨agrees.others.symm, agrees.file', agrees.file⟩

theorem ne_root (agrees : t.AgreesOff l t') : l ≠ [] := by
  obtain ⟨bytes, file⟩ := agrees.file
  have notDir : t.at? l ≠ some .dir := by simp [file]
  exact ne_root_of_at? notDir

theorem at? (agrees : t.AgreesOff l t') (other : l' ≠ l) : t'.at? l' = t.at? l' := by
  have same : ∀ e : Entry, decide ((l', e).1 ≠ l) = true := fun _ => by simpa using other
  have kept := congrArg (List.lookup l') agrees.others
  rw [lookup_filter same, lookup_filter same, if_pos rfl, if_pos rfl] at kept
  unfold FileTree.at?
  rw [kept]

/-- What a location holds is the same, or the one file. -/
theorem cases_at? (agrees : t.AgreesOff l t') (l' : Location) : t'.at? l' = t.at? l' ∨
    ∃ bytes bytes', t.at? l' = some (.file bytes) ∧ t'.at? l' = some (.file bytes') := by
  by_cases same : l' = l
  · subst same
    obtain ⟨bytes, file⟩ := agrees.file
    obtain ⟨bytes', file'⟩ := agrees.file'
    exact .inr ⟨bytes, bytes', file, file'⟩
  · exact .inl (agrees.at? same)

theorem follow (agrees : t.AgreesOff l t') (here : Location) (parts : List String) :
    t'.follow here parts = t.follow here parts := by
  induction parts generalizing here with
  | nil => rfl
  | cons part rest ih =>
    unfold FileTree.follow
    rcases agrees.cases_at? here with same | ⟨bytes, bytes', file, file'⟩
    · rw [same]
      simp only [ih]
    · rw [file, file']

/-- Every path leads to the same location. -/
theorem reach (agrees : t.AgreesOff l t') (p : Path) : t'.reach cwd p = t.reach cwd p := by
  unfold FileTree.reach
  rw [agrees.follow]

/-- A question that does not read files has the same answer. -/
theorem test (agrees : t.AgreesOff l t') (p : Path) {ask : Entry → Bool}
    (blind : ∀ bytes bytes', ask (.file bytes) = ask (.file bytes')) : t'.test cwd p ask = t.test cwd p ask := by
  unfold FileTree.test find
  rw [agrees.reach]
  cases t.reach cwd p with
  | error e => rfl
  | ok here =>
    rcases agrees.cases_at? here with same | ⟨bytes, bytes', file, file'⟩
    · simp only [bind, Except.bind, same]
    · simp only [bind, Except.bind, file, file', pure, Except.pure, blind bytes' bytes]

theorem isFile (agrees : t.AgreesOff l t') (p : Path) : t'.isFile cwd p = t.isFile cwd p :=
  agrees.test p fun _ _ => rfl

theorem isDir (agrees : t.AgreesOff l t') (p : Path) : t'.isDir cwd p = t.isDir cwd p :=
  agrees.test p fun _ _ => rfl

/-- A path that does not lead to the location finds the same. -/
theorem find (agrees : t.AgreesOff l t') (apart : t.reach cwd p ≠ .ok l) : t'.find cwd p = t.find cwd p := by
  unfold FileTree.find
  rw [agrees.reach]
  cases reached : t.reach cwd p with
  | error e => rfl
  | ok here =>
    have other : here ≠ l := fun same => apart (same ▸ reached)
    simp only [bind, Except.bind, agrees.at? other]

/-- Every other file is the same. -/
theorem bytesAt? (agrees : t.AgreesOff l t') (apart : t.reach cwd p ≠ .ok l) :
    t'.bytesAt? cwd p = t.bytesAt? cwd p := by
  simp only [FileTree.bytesAt?, agrees.find apart]

theorem read (agrees : t.AgreesOff l t') (apart : t.reach cwd p ≠ .ok l) :
    t'.read cwd p = t.read cwd p := by
  simp only [FileTree.read, agrees.find apart]

/-- The same names stand in every directory, but for the one file's own name. -/
theorem names (agrees : t.AgreesOff l t') {keep : String → Bool} (dropped : ∀ name ∈ l.getLast?, keep name = false)
    (l' : Location) : (t'.names l').filter keep = (t.names l').filter keep := by
  have without : ∀ entries : List (Location × Entry),
      (entries.filterMap fun e => if e.1.dropLast = l' then e.1.getLast? else none).filter keep =
        ((entries.filter (·.1 ≠ l)).filterMap fun e => if e.1.dropLast = l' then e.1.getLast? else none).filter
          keep := by
    intro entries
    induction entries with
    | nil => rfl
    | cons e rest ih =>
      by_cases here : e.1 = l
      · rw [List.filter_cons_of_neg (by simpa using here), ← ih, List.filterMap_cons, here]
        split
        · rfl
        · rename_i name named
          have named : l.getLast? = some name := by
            split at named
            · exact named
            · cases named
          rw [List.filter_cons_of_neg (by simp [dropped name named])]
      · rw [List.filter_cons_of_pos (by simpa using here), List.filterMap_cons, List.filterMap_cons]
        split
        · exact ih
        · simp only [List.filter_cons, ih]
  unfold FileTree.names
  rw [without, agrees.others, ← without]

/-! ## Changes -/

theorem put (agrees : t.AgreesOff l t') (below : l' ≠ []) (other : l' ≠ l) (e : Entry) :
    (t.put l' e).AgreesOff l (t'.put l' e) := by
  have away : l ≠ l' := Ne.symm other
  refine ⟨?_, ?_, ?_⟩
  · have kept := congrArg (List.filter (·.1 ≠ l')) agrees.others
    simp only [List.filter_filter, Bool.and_comm (decide (_ ≠ l'))] at kept
    simp only [FileTree.put, List.filter_cons, List.filter_filter, kept]
  · rw [at?_put t l' l e below, if_neg away]
    exact agrees.file
  · rw [at?_put t' l' l e below, if_neg away]
    exact agrees.file'

/-- Writing the one file keeps the agreement. -/
theorem put_file (agrees : t.AgreesOff l t') (bytes : List UInt8) : (t.put l (.file bytes)).AgreesOff l t' := by
  refine ⟨?_, ⟨bytes, ?_⟩, agrees.file'⟩
  · simpa [FileTree.put] using agrees.others
  · rw [at?_put t l l _ agrees.ne_root, if_pos rfl]

theorem makeDir (agrees : t.AgreesOff l t') (cwd : String) (p : Path) :
    (∃ u u', t.makeDir cwd p = .ok u ∧ t'.makeDir cwd p = .ok u' ∧ u.AgreesOff l u') ∨
      ∃ r, t.makeDir cwd p = .error r ∧ t'.makeDir cwd p = .error r := by
  unfold FileTree.makeDir
  rw [agrees.reach]
  cases reached : t.reach cwd p with
  | error r => exact .inr ⟨r, rfl, rfl⟩
  | ok here =>
    simp only [bind, Except.bind]
    rcases agrees.cases_at? here with same | ⟨_, _, file, file'⟩
    · rw [same]
      cases entry : t.at? here with
      | some e => exact .inr ⟨.alreadyThere, rfl, rfl⟩
      | none =>
        have other : here ≠ l := by
          rintro rfl
          obtain ⟨bytes, file⟩ := agrees.file
          exact nomatch entry.symm.trans file
        have notDir : t.at? here ≠ some .dir := by simp [entry]
        have below := ne_root_of_at? notDir
        rcases agrees.cases_at? here.dropLast with same | ⟨_, _, file, file'⟩
        · simp only [same]
          cases t.at? here.dropLast with
          | none => exact .inr ⟨.missing, rfl, rfl⟩
          | some e =>
            cases e with
            | dir => exact .inl ⟨_, _, rfl, rfl, agrees.put below other .dir⟩
            | file bytes => exact .inr ⟨.notDirectory, rfl, rfl⟩
        · simp only [file, file']
          exact .inr ⟨.notDirectory, rfl, rfl⟩
    · simp only [file, file']
      exact .inr ⟨.alreadyThere, rfl, rfl⟩

theorem makeDirsFrom (agrees : t.AgreesOff l t') (anchor : Anchor) (parts : List String) :
    (makeDirsFrom cwd anchor parts t').1 = (makeDirsFrom cwd anchor parts t).1 ∧
      (makeDirsFrom cwd anchor parts t).2.AgreesOff l (makeDirsFrom cwd anchor parts t').2 := by
  have accepted : ∀ {t t' : FileTree}, t.AgreesOff l t' → ∀ p r,
      (t'.acceptDir cwd p r).1 = (t.acceptDir cwd p r).1 ∧
        (t.acceptDir cwd p r).2.AgreesOff l (t'.acceptDir cwd p r).2 := by
    intro t t' agrees p r
    unfold acceptDir
    rw [agrees.isDir]
    split
    · exact ⟨rfl, agrees⟩
    · exact ⟨rfl, agrees⟩
  induction parts generalizing t t' with
  | nil => exact ⟨rfl, agrees⟩
  | cons part up ih =>
    simp only [FileTree.makeDirsFrom]
    rcases agrees.makeDir cwd ⟨anchor, (part :: up).reverse⟩ with ⟨u, u', made, made', left⟩ | ⟨r, failed, failed'⟩
    · rw [made, made']
      exact ⟨rfl, left⟩
    · rw [failed, failed']
      cases r with
      | missing =>
        obtain ⟨result, left⟩ := ih agrees
        cases above : FileTree.makeDirsFrom cwd anchor up t with
        | mk outcome u =>
          cases above' : FileTree.makeDirsFrom cwd anchor up t' with
          | mk outcome' u' =>
            rw [above, above'] at result left
            cases result
            cases outcome with
            | error e => exact ⟨rfl, left⟩
            | ok _ =>
              rcases left.makeDir cwd ⟨anchor, (part :: up).reverse⟩ with
                ⟨v, v', made, made', later⟩ | ⟨r, failed, failed'⟩
              · simp only [made, made']
                exact ⟨trivial, later⟩
              · simp only [failed, failed']
                exact accepted left _ r
      | _ => exact accepted agrees _ _

theorem makeDirs (agrees : t.AgreesOff l t') (p : Path) : (t'.makeDirs cwd p).1 = (t.makeDirs cwd p).1 ∧
    (t.makeDirs cwd p).2.AgreesOff l (t'.makeDirs cwd p).2 :=
  agrees.makeDirsFrom p.anchor p.parts.reverse

/-- Another file is changed alike. -/
theorem modify (agrees : t.AgreesOff l t') (apart : t.reach cwd p ≠ .ok l) (change : List UInt8 → List UInt8) :
    (∃ u u', t.modify cwd p change = .ok u ∧ t'.modify cwd p change = .ok u' ∧ u.AgreesOff l u') ∨
      ∃ e, t.modify cwd p change = .error e ∧ t'.modify cwd p change = .error e := by
  unfold FileTree.modify
  rw [agrees.reach]
  cases reached : t.reach cwd p with
  | error r => exact .inr ⟨_, rfl, rfl⟩
  | ok here =>
    have other : here ≠ l := fun same => apart (same ▸ reached)
    have written : t.at? here ≠ some .dir → ∀ e, (t.put here e).AgreesOff l (t'.put here e) :=
      fun notDir e => agrees.put (ne_root_of_at? notDir) other e
    simp only [bind, Except.bind, agrees.at? other]
    cases entry : t.at? here with
    | some e =>
      cases e with
      | dir => exact .inr ⟨_, rfl, rfl⟩
      | file bytes => exact .inl ⟨_, _, rfl, rfl, written (by simp [entry]) _⟩
    | none =>
      rcases agrees.cases_at? here.dropLast with same | ⟨_, _, file, file'⟩
      · simp only [same]
        cases t.at? here.dropLast with
        | none => exact .inr ⟨_, rfl, rfl⟩
        | some e =>
          cases e with
          | dir => exact .inl ⟨_, _, rfl, rfl, written (by simp [entry]) _⟩
          | file bytes => exact .inr ⟨_, rfl, rfl⟩
      · simp only [file, file']
        exact .inr ⟨_, rfl, rfl⟩

theorem copy (agrees : t.AgreesOff l t') (source : t.reach cwd p ≠ .ok l) (target : t.reach cwd q ≠ .ok l) :
    (∃ u u', t.copy cwd p q = .ok u ∧ t'.copy cwd p q = .ok u' ∧ u.AgreesOff l u') ∨
      ∃ e, t.copy cwd p q = .error e ∧ t'.copy cwd p q = .error e := by
  have there : ∀ here, (t'.at? here).isSome = (t.at? here).isSome := by
    intro here
    rcases agrees.cases_at? here with same | ⟨_, _, file, file'⟩
    · rw [same]
    · rw [file, file']
      rfl
  have alike : ∃ (onto : Bool) (refusal : Failure),
      (t.copy cwd p q = if onto then .error refusal else t.read cwd p >>= fun bytes => t.write cwd q bytes) ∧
      t'.copy cwd p q = if onto then .error refusal else t.read cwd p >>= fun bytes => t'.write cwd q bytes := by
    unfold FileTree.copy
    refine ⟨_, _, rfl, ?_⟩
    simp only [agrees.reach, there, agrees.read source]
  obtain ⟨onto, refusal, first, second⟩ := alike
  rw [first, second]
  cases onto with
  | true => exact .inr ⟨refusal, rfl, rfl⟩
  | false =>
    cases t.read cwd p with
    | error e => exact .inr ⟨e, rfl, rfl⟩
    | ok bytes => exact agrees.modify target fun _ => bytes

end AgreesOff

/-! ## The file that a path leads to -/

namespace SameBut

theorem symm (same : t.SameBut cwd out t') : t'.SameBut cwd out t := by
  obtain ⟨l, reached, agrees⟩ := same
  exact ⟨l, (agrees.reach out).trans reached, agrees.symm⟩

/-- A tree is the same as itself, if the file is there. -/
theorem refl {bytes : List UInt8} (found : t.bytesAt? cwd out = some bytes) : t.SameBut cwd out t := by
  obtain ⟨l, reached, file⟩ := bytesAt?_eq_some_iff.mp found
  exact ⟨l, reached, rfl, ⟨bytes, file⟩, ⟨bytes, file⟩⟩

theorem isFile (same : t.SameBut cwd out t') (p : Path) : t'.isFile cwd p = t.isFile cwd p := by
  obtain ⟨l, _, agrees⟩ := same
  exact agrees.isFile p

/-- Every other file is the same. -/
theorem bytesAt? (same : t.SameBut cwd out t') (apart : ¬ t.SameFile cwd p out) :
    t'.bytesAt? cwd p = t.bytesAt? cwd p := by
  obtain ⟨l, reached, agrees⟩ := same
  exact agrees.bytesAt? fun here => apart ⟨l, here, reached⟩

theorem makeDirs (same : t.SameBut cwd out t') (p : Path) : (t'.makeDirs cwd p).1 = (t.makeDirs cwd p).1 ∧
    (t.makeDirs cwd p).2.SameBut cwd out (t'.makeDirs cwd p).2 := by
  obtain ⟨l, reached, agrees⟩ := same
  obtain ⟨result, left⟩ := agrees.makeDirs p
  exact ⟨result, l, reach_of_dirs (fun _ dir => (makeDirs_grows t cwd p).kept dir) reached, left⟩

theorem modify (same : t.SameBut cwd out t') (apart : ¬ t.SameFile cwd p out) (change : List UInt8 → List UInt8) :
    (∃ u u', t.modify cwd p change = .ok u ∧ t'.modify cwd p change = .ok u' ∧ u.SameBut cwd out u') ∨
      ∃ e, t.modify cwd p change = .error e ∧ t'.modify cwd p change = .error e := by
  obtain ⟨l, reached, agrees⟩ := same
  rcases agrees.modify (fun here => apart ⟨l, here, reached⟩) change with ⟨u, u', done, done', left⟩ | failed
  · obtain ⟨here, -, notDir, -, rfl⟩ := modify_eq_ok done
    exact .inl ⟨_, u', done, done', l, (reach_put_file notDir).mpr reached, left⟩
  · exact .inr failed

theorem copy (same : t.SameBut cwd out t') (source : ¬ t.SameFile cwd p out) (target : ¬ t.SameFile cwd q out) :
    (∃ u u', t.copy cwd p q = .ok u ∧ t'.copy cwd p q = .ok u' ∧ u.SameBut cwd out u') ∨
      ∃ e, t.copy cwd p q = .error e ∧ t'.copy cwd p q = .error e := by
  obtain ⟨l, reached, agrees⟩ := same
  rcases agrees.copy (fun here => source ⟨l, here, reached⟩) (fun here => target ⟨l, here, reached⟩) with
    ⟨u, u', copied, copied', left⟩ | failed
  · obtain ⟨bytes, -, written, -⟩ := copy_eq_ok copied
    obtain ⟨here, -, notDir, -, rfl⟩ := modify_eq_ok written
    exact .inl ⟨_, u', copied, copied', l, (reach_put_file notDir).mpr reached, left⟩
  · exact .inr failed

/-- Adding to the file changes nothing else. -/
theorem append {bytes : List UInt8} (same : t.SameBut cwd out t') (done : t.append cwd out bytes = .ok u) :
    u.SameBut cwd out t' := by
  obtain ⟨l, reached, agrees⟩ := same
  obtain ⟨here, reached', notDir, -, rfl⟩ := modify_eq_ok done
  cases reached.symm.trans reached'
  exact ⟨l, (reach_put_file notDir).mpr reached, agrees.put_file _⟩

end SameBut

end PltKeeper.FileTree
