import PltKeeper.Proofs.Plt.Names
import PltKeeper.Proofs.Application.Resolution
import PltKeeper.Proofs.Traversal

/-! What is resolved are compiled objects. The objects in a directory are told by the ending of their
names, and the key of a file keeps the last component of its path, so every key that resolution gives
still ends as the names of compiled objects do. -/
namespace PltKeeper

namespace Path

variable {ending : List Char}

/-- The ending of a name is what the name ends in. -/
theorem suffixOf_isSuffix (name : String) : (suffixOf name).toList <:+ name.toList := by
  unfold suffixOf
  simp only
  split
  · exact List.nil_suffix
  · rename_i long
    have front := List.takeWhile_append_dropWhile (p := (· ≠ '.')) (l := name.toList.reverse)
    cases rest : name.toList.reverse.dropWhile (· ≠ '.') with
    | nil =>
      rw [rest, List.append_nil] at front
      rw [front, List.length_reverse, String.length_toList] at long
      simp at long
    | cons dot before =>
      have stopped := List.head?_dropWhile_not (· ≠ '.') name.toList.reverse
      simp only [rest, List.head?_cons] at stopped
      obtain rfl : dot = '.' := by simpa using stopped
      refine ⟨before.reverse, ?_⟩
      rw [rest] at front
      simpa using congrArg List.reverse front

/-- A joined list ends in its last member. -/
theorem suffix_intercalate (front : List String) (name : String) :
    name.toList <:+ ("/".intercalate (front ++ [name])).toList := by
  rw [String.toList_intercalate]
  induction front with
  | nil => simp
  | cons first rest ih =>
    obtain ⟨before, whole⟩ := ih
    refine ⟨first.toList ++ ("/".toList ++ before), ?_⟩
    rw [List.append_assoc, List.append_assoc, whole]
    cases rest <;> simp [List.intercalate]

/-- The text of a path ends as its last component does. -/
theorem EndsWith.text {p : Path} (ends : p.EndsWith ending) : ending <:+ p.text.toList := by
  obtain ⟨anchor, parts⟩ := p
  obtain ⟨name, last, ends⟩ := ends
  obtain ⟨front, rfl⟩ := List.getLast?_eq_some_iff.mp last
  have some : (front ++ [name]).isEmpty = false := by simp
  have shown : Path.text ⟨anchor, front ++ [name]⟩ = Anchor.text anchor ++ "/".intercalate (front ++ [name]) := by
    simp [Path.text, some]
  rw [shown, String.toList_append]
  exact (ends.trans (suffix_intercalate front name)).trans (List.suffix_append _ _)

/-- What is looked up from another path keeps its ending. -/
theorem EndsWith.join {q : Path} (ends : q.EndsWith ending) (p : Path) : (p / q).EndsWith ending := by
  obtain ⟨name, last, ends⟩ := ends
  refine ⟨name, ?_, ends⟩
  show (Path.join p q).parts.getLast? = some name
  unfold Path.join
  split
  · exact last
  · simp [List.getLast?_append, last]

/-- Removing every `..` keeps a last component that is none. -/
theorem collapse_append (front : List String) {name : String} (plain : name ≠ "..") :
    collapse (front ++ [name]) = collapse front ++ [name] := by
  simp [collapse, plain]

/-- The key of a file ends as its text does. -/
theorem canonical_ends {file : String} (cwd : String) (free : '/' ∉ ending) (long : 2 < ending.length)
    (ends : ending <:+ file.toList) : ending <:+ (canonical cwd file).toList := by
  obtain ⟨name, last, ends⟩ := endsWith_child (parse cwd) free (by omega) ends
  have last : (absolute cwd file).parts.getLast? = some name := last
  have plain : name ≠ ".." := by
    rintro rfl
    have short := ends.length_le
    simp only [String.length_toList] at short
    exact absurd (Nat.lt_of_lt_of_le long short) (by decide)
  obtain ⟨front, parts⟩ := List.getLast?_eq_some_iff.mp last
  have key : EndsWith { absolute cwd file with parts := collapse (absolute cwd file).parts } ending := by
    refine ⟨name, ?_, ends⟩
    simp only [parts, collapse_append front plain]
    exact List.getLast?_concat
  exact key.text

end Path

namespace Manifest

variable {r : Registry} {cwd : String} {t : FileTree} {texts : List String} {files : FileSet}

/-- Every text ends as the names of compiled objects do. -/
def AllObjects (texts : List String) : Prop := ∀ file ∈ texts, objectExtension.toList <:+ file.toList

theorem AllObjects.append {more : List String} (first : AllObjects texts) (second : AllObjects more) :
    AllObjects (texts ++ more) := by
  intro file member
  rcases List.mem_append.mp member with member | member
  · exact first file member
  · exact second file member

/-- A compiled object in a directory: a regular file under an entry of it that is named as one. -/
inductive ObjectIn (cwd : String) (t : FileTree) (ebin : Path) : Path → Prop
  | entry {names : List String} {name : String} {bytes : List UInt8} (listed : t.list cwd ebin = .ok names)
    (member : name ∈ names) (suffix : Path.suffixOf name = objectExtension)
    (held : t.bytesAt? cwd (ebin / ⟨.relative, [name]⟩) = some bytes) :
    ObjectIn cwd t ebin (ebin / ⟨.relative, [name]⟩)

theorem objectFiles_eq_ok_iff {ebin : Path} : objectFiles cwd t ebin = .ok texts ↔
    ∃ names objects, t.list cwd ebin = .ok names ∧
      ((names.filter fun n => Path.suffixOf n = objectExtension).filterM fun n =>
        t.isFile cwd (ebin / ⟨.relative, [n]⟩)) = .ok objects ∧
      (objects.map fun n => (Path.parse cwd / (ebin / ⟨.relative, [n]⟩)).text).mergeSort
        (fun a b => decide (a ≤ b)) = texts := by
  simp only [objectFiles, mapError_ok_iff, bind_ok_iff, pure, Except.pure, Except.ok.injEq, exists_and_left]

/-- What is listed of a directory are its compiled objects, by their absolute paths. -/
theorem mem_objectFiles_iff {ebin : Path} {text : String} (listed : objectFiles cwd t ebin = .ok texts) :
    text ∈ texts ↔ ∃ p, ObjectIn cwd t ebin p ∧ (Path.parse cwd / p).text = text := by
  obtain ⟨names, objects, listing, kept, rfl⟩ := objectFiles_eq_ok_iff.mp listed
  simp only [List.mem_mergeSort, List.mem_map, mem_filterM_iff kept, List.mem_filter, decide_eq_true_eq,
    FileTree.isFile_iff]
  constructor
  · rintro ⟨name, ⟨⟨member, suffix⟩, bytes, held⟩, rfl⟩
    exact ⟨_, .entry listing member suffix held, rfl⟩
  · rintro ⟨_, ⟨listing', member, suffix, held⟩, rfl⟩
    cases listing.symm.trans listing'
    exact ⟨_, ⟨⟨member, suffix⟩, _, held⟩, rfl⟩

/-- What is listed of a directory are compiled objects. -/
theorem objectFiles_objects {ebin : Path} (listed : objectFiles cwd t ebin = .ok texts) : AllObjects texts := by
  intro file member
  obtain ⟨_, @⟨_, name, _, -, -, suffix, -⟩, rfl⟩ := (mem_objectFiles_iff listed).mp member
  have named : Path.EndsWith ⟨.relative, [name]⟩ objectExtension.toList :=
    ⟨name, rfl, suffix ▸ Path.suffixOf_isSuffix name⟩
  exact ((named.join ebin).join (Path.parse cwd)).text

/-- What an application's files are listed of is where it is located. -/
theorem appFiles_eq_ok {name : String} (found : appFiles r cwd t name = .ok texts) :
    ∃ ebin, r.locate cwd t name = .ok (some ebin) ∧ objectFiles cwd t ebin = .ok texts := by
  obtain ⟨place?, located, found⟩ := bind_ok_iff.mp found
  cases place? with
  | none => exact nomatch found
  | some ebin => exact ⟨ebin, located, found⟩

theorem appFiles_of_lost {name : String} (lost : r.locate cwd t name = .ok none) :
    appFiles r cwd t name = .error (.tool (.unknownApplication name)) := by
  simp [appFiles, lost, bind, Except.bind]

theorem appFiles_objects {name : String} (found : appFiles r cwd t name = .ok texts) : AllObjects texts := by
  obtain ⟨_, _, listed⟩ := appFiles_eq_ok found
  exact objectFiles_objects listed

theorem filesOf_objects {passed : List String} {names : List Json} (found : filesOf r cwd t passed names = .ok texts) :
    AllObjects texts := by
  induction names generalizing passed texts with
  | nil =>
    cases found
    exact fun file member => nomatch member
  | cons value rest ih =>
    obtain ⟨name, _, ⟨_, later⟩ | ⟨_, first, others, here, later, rfl⟩⟩ := filesOf_cons_ok_iff.mp found
    · exact ih later
    · exact (appFiles_objects here).append (ih later)

/-- The files of named applications, as they are required of a PLT, or those of a project, as they are analysed. -/
def Resolved (cwd : String) (files : FileSet) : Prop :=
  (∃ r t names apps, resolve r cwd t names apps = .ok files) ∨ ∃ t apps, projectFiles cwd t apps = .ok files

theorem Resolved.canonical (rooted : Path.Rooted cwd) (resolved : Resolved cwd files) : files.Canonical cwd := by
  rcases resolved with ⟨r, t, names, apps, resolved⟩ | ⟨t, apps, resolved⟩
  · exact canonical_resolve rooted resolved
  · exact canonical_projectFiles rooted resolved

/-- A file that is required of a PLT has the key of one of the files of the names, -/
theorem mem_of_resolve {names : List Json} {apps : List ProjectApp} {file : String}
    (resolved : resolve r cwd t names apps = .ok files) (member : file ∈ files) :
    ∃ texts, filesOf r cwd t (apps.map (·.name)) names = .ok texts ∧ ∃ text ∈ texts, Path.canonical cwd text = file := by
  obtain ⟨texts, found, rfl⟩ := resolve_eq_ok_iff.mp resolved
  exact ⟨texts, found, FileSet.mem_of.mp member⟩

/-- and one that is analysed that of an object of the project's own. -/
theorem mem_of_projectFiles {apps : List ProjectApp} {file : String}
    (resolved : projectFiles cwd t apps = .ok files) (member : file ∈ files) :
    ∃ app ∈ apps, ∃ texts, objectFiles cwd t app.ebin = .ok texts ∧ ∃ text ∈ texts, Path.canonical cwd text = file := by
  obtain ⟨lists, ran, made⟩ := bind_ok_iff.mp resolved
  cases made
  obtain ⟨text, given, key⟩ := FileSet.mem_of.mp member
  obtain ⟨texts, inLists, inTexts⟩ := List.mem_flatten.mp given
  obtain ⟨app, inApps, listed⟩ := mem_of_mapM ran inLists
  obtain ⟨isDir, -, listed⟩ := bind_ok_iff.mp listed
  cases isDir with
  | false => exact nomatch listed
  | true => exact ⟨app, inApps, texts, listed, text, inTexts, key⟩

theorem Resolved.objects (resolved : Resolved cwd files) : AllObjects files.toList := by
  intro file member
  have key {text : String} (object : objectExtension.toList <:+ text.toList) :
      objectExtension.toList <:+ (Path.canonical cwd text).toList :=
    Path.canonical_ends cwd (by decide) (by decide) object
  rcases resolved with ⟨r, t, names, apps, resolved⟩ | ⟨t, apps, resolved⟩
  · obtain ⟨texts, found, text, inTexts, rfl⟩ := mem_of_resolve resolved member
    exact key (filesOf_objects found text inTexts)
  · obtain ⟨_, _, texts, listed, text, inTexts, rfl⟩ := mem_of_projectFiles resolved member
    exact key (objectFiles_objects listed text inTexts)

end Manifest

end PltKeeper
