import PltKeeper.Proofs.Application.Objects
import PltKeeper.Backend.Dialyzer.Output

/-! The files of a PLT survive the listing that dialyzer prints of it. A quoted text ends at the first
quote that no backslash escapes, so the scan goes on right after it, whatever the text holds. The escapes
are taken out by two replacements, one after the other: once no quote is escaped, every backslash stands
in a pair, and the pairs are the ones that were written. What resolution gives is read back as it is, since
the ending that makes a file an object is the ending that is looked for in a listing. -/
namespace PltKeeper.Dialyzer

open Text

/-- A path as it is written between quotes, with a backslash before every quote and every backslash. -/
def escaped (path : List Char) : List Char :=
  path.flatMap fun c => if c = '"' ∨ c = '\\' then ['\\', c] else [c]

/-- A path in a listing, and what is printed after its closing quote. -/
structure Listed where
  path : String
  after : String

def Listed.print (e : Listed) : List Char := '"' :: (escaped e.path.toList ++ '"' :: e.after.toList)

/-- A listing: every path between quotes, with other text before and after it. -/
def printout (before : String) (entries : List Listed) : String :=
  String.ofList (before.toList ++ entries.flatMap (·.print))

/-- The other text has no quote in it. -/
def Listed.Legible (e : Listed) : Prop := '"' ∉ e.after.toList

instance (e : Listed) : Decidable e.Legible := inferInstanceAs (Decidable ('"' ∉ e.after.toList))

variable {path rest gap : List Char} {before : String} {entries : List Listed} {cwd : String} {files : FileSet}

theorem escaped_cons (c : Char) (path : List Char) :
    escaped (c :: path) = (if c = '"' ∨ c = '\\' then ['\\', c] else [c]) ++ escaped path := rfl

/-- What is written starts with no bare quote. -/
theorem head_escaped : (escaped path).head? ≠ some '"' := by
  cases path with
  | nil => simp [escaped]
  | cons c path =>
    rw [escaped_cons]
    split
    · simp
    · rename_i plain
      simpa using fun same => plain (.inl same)

/-! ## Finding the closing quote -/

theorem quotedBody_cons {c : Char} (plain : ¬ (c = '"' ∨ c = '\\')) :
    quotedBody (c :: rest) = (quotedBody rest).map fun (body, after) => (c :: body, after) := by
  obtain ⟨notQuote, notBackslash⟩ := not_or.mp plain
  rw [quotedBody]
  · exact notQuote
  · exact fun _ _ same => absurd same notBackslash
  · exact fun same => absurd same notBackslash

theorem quotedBody_escaped : quotedBody (escaped path ++ '"' :: rest) = some (escaped path, rest) := by
  induction path with
  | nil => rfl
  | cons c path ih =>
    rw [escaped_cons]
    split
    · rename_i special
      have visible : c ≠ '\n' := by
        rintro rfl
        exact absurd special (by decide)
      simp [quotedBody, visible, ih]
    · rename_i plain
      rw [List.append_assoc, List.singleton_append, quotedBody_cons plain, ih]
      rfl

/-- Text without quotes is passed over. -/
theorem quotedTexts_gap (free : '"' ∉ gap) : quotedTexts (gap ++ rest) = quotedTexts rest := by
  induction gap with
  | nil => rfl
  | cons c gap ih =>
    obtain ⟨notQuote, free⟩ := List.ne_and_not_mem_of_not_mem_cons free
    rw [List.cons_append, quotedTexts, ih free]
    exact fun same => notQuote same.symm

theorem quotedTexts_closed {body after : List Char} (closed : quotedBody rest = some (body, after)) :
    quotedTexts ('"' :: rest) = body :: quotedTexts after := by
  rw [quotedTexts]
  split
  · rename_i found
    cases closed.symm.trans found
    rfl
  · rename_i unclosed
    cases closed.symm.trans unclosed

/-- Every path is found, and nothing else. -/
theorem quotedTexts_entries (legible : ∀ e ∈ entries, e.Legible) :
    quotedTexts (entries.flatMap (·.print)) = entries.map fun e => escaped e.path.toList := by
  induction entries with
  | nil => rw [List.flatMap_nil, quotedTexts, List.map_nil]
  | cons e entries ih =>
    obtain ⟨here, legible⟩ := List.forall_mem_cons.mp legible
    have split : (e :: entries).flatMap (·.print) =
        '"' :: (escaped e.path.toList ++ '"' :: (e.after.toList ++ entries.flatMap (·.print))) := by
      simp [Listed.print]
    rw [split, quotedTexts_closed quotedBody_escaped, quotedTexts_gap here, ih legible, List.map_cons]

/-! ## Taking the escapes out -/

/-- A path with every backslash written twice, as it stands once no quote is escaped. -/
def doubled (path : List Char) : List Char :=
  path.flatMap fun c => if c = '\\' then ['\\', '\\'] else [c]

/-- A character that starts no pair stays. -/
theorem replacePair_cons {a b one c : Char} (alone : c = a → rest.head? ≠ some b) :
    replacePair a b one (c :: rest) = c :: replacePair a b one rest := by
  cases rest with
  | nil => rfl
  | cons d rest =>
    rw [replacePair, if_neg]
    simpa using alone

theorem unquoted_escaped : replacePair '\\' '"' '"' (escaped path) = doubled path := by
  induction path with
  | nil => rfl
  | cons c path ih =>
    have shape : doubled (c :: path) = (if c = '\\' then ['\\', '\\'] else [c]) ++ doubled path := rfl
    rw [escaped_cons, shape]
    by_cases backslash : c = '\\'
    · subst backslash
      -- Neither backslash has a quote after it: the first has the second, the second what is written next.
      have second : replacePair '\\' '"' '"' ('\\' :: escaped path) = '\\' :: doubled path := by
        rw [replacePair_cons fun _ => head_escaped, ih]
      have first : replacePair '\\' '"' '"' ('\\' :: '\\' :: escaped path) =
          '\\' :: replacePair '\\' '"' '"' ('\\' :: escaped path) :=
        replacePair_cons fun _ => by simp
      simpa [second] using first
    · by_cases quote : c = '"'
      · subst quote
        simp [replacePair, ih]
      · have plain : replacePair '\\' '"' '"' (c :: escaped path) = c :: doubled path := by
          rw [replacePair_cons fun same => absurd same backslash, ih]
        simpa [backslash, quote] using plain

theorem halved_doubled : replacePair '\\' '\\' '\\' (doubled path) = path := by
  induction path with
  | nil => rfl
  | cons c path ih =>
    have shape : doubled (c :: path) = (if c = '\\' then ['\\', '\\'] else [c]) ++ doubled path := rfl
    rw [shape]
    by_cases backslash : c = '\\'
    · subst backslash
      simp [replacePair, ih]
    · have plain : replacePair '\\' '\\' '\\' (c :: doubled path) = c :: path := by
        rw [replacePair_cons fun same => absurd same backslash, ih]
      simpa [backslash] using plain

/-- Taking the escapes out of a written path gives the path. -/
theorem unescaped_escaped : unescaped (escaped path) = path := by
  rw [unescaped, unquoted_escaped, halved_doubled]

/-! ## Reading a listing -/

/-- A listing is read as the set of the paths in it that end as compiled objects do. -/
theorem listedFiles_listing (beforeFree : '"' ∉ before.toList) (legible : ∀ e ∈ entries, e.Legible) :
    listedFiles cwd (printout before entries) =
      FileSet.of cwd ((entries.map (·.path)).filter fun path => objectEnding.isSuffixOf path.toList) := by
  have read : (quotedTexts (printout before entries).toList).map unescaped = entries.map (·.path.toList) := by
    rw [printout, String.toList_ofList, quotedTexts_gap beforeFree, quotedTexts_entries legible, List.map_map]
    exact List.map_congr_left fun e _ => unescaped_escaped
  have kept : ((entries.map (·.path.toList)).filter fun f => objectEnding.isSuffixOf f).map String.ofList =
      (entries.map (·.path)).filter fun path => objectEnding.isSuffixOf path.toList := by
    rw [List.filter_map, List.filter_map, List.map_map]
    exact List.map_congr_left fun e _ => String.ofList_toList
  rw [listedFiles, read]
  exact congrArg (FileSet.of cwd) kept

/-- Compiled objects are told in a directory and in a listing by one ending. -/
theorem objectExtension_toList : objectExtension.toList = objectEnding := by decide

/-- A listing of files that have been resolved is read as just those files. -/
theorem listedFiles_resolved (rooted : Path.Rooted cwd) (resolved : Manifest.Resolved cwd files)
    (beforeFree : '"' ∉ before.toList) (legible : ∀ e ∈ entries, e.Legible)
    (same : ∀ file, file ∈ entries.map (·.path) ↔ file ∈ files) :
    listedFiles cwd (printout before entries) = files := by
  have objects : (entries.map (·.path)).filter (fun path => objectEnding.isSuffixOf path.toList) =
      entries.map (·.path) := by
    rw [List.filter_eq_self]
    intro file member
    rw [List.isSuffixOf_iff_suffix, ← objectExtension_toList]
    exact resolved.objects file ((same file).mp member)
  have sameSet : FileSet.of cwd (entries.map (·.path)) = FileSet.of cwd files.toList := by
    apply FileSet.ext
    intro file
    simp only [FileSet.mem_of, same]
    rfl
  rw [listedFiles_listing beforeFree legible, objects, sameSet, FileSet.of_toList (resolved.canonical rooted)]

/-- What a PLT holds survives its listing, whatever characters are in the paths: the paths that end as
compiled objects do are read, each as it was written, and of resolved files none is lost or changed. -/
theorem listing_read_back (beforeFree : '"' ∉ before.toList) (legible : ∀ e ∈ entries, e.Legible) :
    listedFiles cwd (printout before entries) =
        FileSet.of cwd ((entries.map (·.path)).filter fun path => objectEnding.isSuffixOf path.toList) ∧
      ∀ files : FileSet, Path.Rooted cwd → Manifest.Resolved cwd files →
        (∀ file, file ∈ entries.map (·.path) ↔ file ∈ files) →
          listedFiles cwd (printout before entries) = files :=
  ⟨listedFiles_listing beforeFree legible,
    fun _ rooted resolved same => listedFiles_resolved rooted resolved beforeFree legible same⟩

/-- The objects of two applications, with a quote in one name and a backslash in the other. -/
theorem listing_of_two_objects :
    listedFiles "/" "files: \"/a/b\\\"c.beam\", \"/d/e\\\\.beam\"\n" =
      FileSet.of "/" ["/a/b\"c.beam", "/d/e\\.beam"] := by
  let entries : List Listed := [⟨"/a/b\"c.beam", ", "⟩, ⟨"/d/e\\.beam", "\n"⟩]
  let t : FileTree := ⟨[(["a"], .dir), (["a", "b\"c.beam"], .file []), (["a", "a.app"], .file []),
    (["d"], .dir), (["d", "e\\.beam"], .file [])]⟩
  have printed : printout "files: " entries = "files: \"/a/b\\\"c.beam\", \"/d/e\\\\.beam\"\n" := by
    decide +kernel
  have resolved : Manifest.projectFiles "/" t [⟨"a", Path.parse "/a", []⟩, ⟨"d", Path.parse "/d", []⟩] =
      .ok (FileSet.of "/" ["/a/b\"c.beam", "/d/e\\.beam"]) := by
    decide +kernel
  have members : (FileSet.of "/" ["/a/b\"c.beam", "/d/e\\.beam"]).toList = entries.map (·.path) := by
    decide +kernel
  rw [← printed]
  refine (listing_read_back (by decide) (by decide)).2 _ (by decide) (.inr ⟨t, _, resolved⟩) fun file => ?_
  rw [FileSet.mem_def, members]

end PltKeeper.Dialyzer
