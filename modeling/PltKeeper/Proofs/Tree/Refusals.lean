import PltKeeper.Proofs.Tree.Room
import Mathlib.Tactic.SplitIfs

/-! How accesses to a tree fail. Where no component of a path holds a character that no name may hold,
whatever goes wrong is a refusal of the operating system; where one does, nothing is written. A test of
what is there fails for a name that is too long, and for nothing else; and a directory that is there can
be listed. -/
namespace PltKeeper

/-- No component of a path holds a character that no name may hold. -/
def Path.Usable (p : Path) : Prop := ∀ part ∈ p.parts, Text.IsUsable part

instance (p : Path) : Decidable p.Usable := List.decidableBAll _ _

/-- Nor does the text of such a path. -/
theorem Path.Usable.text {p : Path} (usable : p.Usable) : Text.IsUsable p.text := by
  have joined (parts : List (List Char)) (clean : ∀ part ∈ parts, ∀ c ∈ part, Text.isUnusable c = false) :
      ∀ c ∈ "/".toList.intercalate parts, Text.isUnusable c = false := by
    induction parts with
    | nil => exact nofun
    | cons part parts ih =>
      obtain ⟨here, clean⟩ := List.forall_mem_cons.mp clean
      cases parts with
      | nil => simpa using here
      | cons next parts =>
        rw [List.intercalate_cons_cons]
        have slash : Text.IsUsable "/" := by decide
        exact List.forall_mem_append.mpr ⟨List.forall_mem_append.mpr ⟨here, slash⟩, ih clean⟩
  have anchor : Text.IsUsable (Anchor.text p.anchor) := by
    cases p.anchor <;> decide
  unfold Path.text
  split
  · decide
  · unfold Text.IsUsable
    rw [String.toList_append, String.toList_intercalate]
    refine List.forall_mem_append.mpr ⟨anchor, joined _ fun part member => ?_⟩
    obtain ⟨name, inPath, rfl⟩ := List.mem_map.mp member
    exact usable name inPath

theorem Path.Usable.parent {p : Path} (usable : p.Usable) : p.parent.Usable :=
  fun part member => usable part (List.dropLast_subset _ member)

/-- A refusal of the operating system. -/
def Failure.OfSystem (e : Failure) : Prop := ∃ cause, e = .system cause

/-- A failure to access a path: a refusal of the operating system, or of a name that no file may have. -/
inductive Failure.OfAccess (p : Path) : Failure → Prop
  | refused (cause : SystemError) : OfAccess p (.system cause)
  | unusable (unusable : ¬ p.Usable) (file : String) : OfAccess p (.unusable file)

theorem Failure.OfAccess.ofSystem {e : Failure} {p : Path} (access : e.OfAccess p) (usable : p.Usable) :
    e.OfSystem := by
  cases access with
  | refused cause => exact ⟨cause, rfl⟩
  | unusable unusable => exact absurd usable unusable

/-- What cannot be used in a part of a path cannot be used in the path. -/
theorem Failure.OfAccess.mono {e : Failure} {p q : Path} (access : e.OfAccess p)
    (within : ∀ part ∈ p.parts, part ∈ q.parts) : e.OfAccess q := by
  cases access with
  | refused cause => exact .refused cause
  | unusable unusable file =>
    exact .unusable (fun usable => unusable fun part member => usable part (within part member)) file

/-- The refusal to look up a name that is too long. -/
def Failure.TooLong (e : Failure) : Prop := ∃ file, e = Refusal.nameTooLong.failure file

theorem Failure.TooLong.ofSystem {e : Failure} (long : e.TooLong) : e.OfSystem := by
  obtain ⟨file, rfl⟩ := long
  exact ⟨_, rfl⟩

namespace FileTree

variable {t : FileTree} {cwd : String} {p q : Path} {r : Refusal} {e : Failure}

theorem follow_error {here : Location} {parts : List String} (refused : t.follow here parts = .error r) :
    r ≠ .unusableName := by
  fun_induction t.follow here parts with
  | case1 => exact nomatch refused
  | case2 =>
    cases refused
    exact nofun
  | case3 =>
    cases refused
    exact nofun
  | case4 _ _ _ ih => exact ih refused
  | case5 =>
    cases refused
    exact nofun
  | case6 _ _ _ _ _ _ ih => exact ih refused

/-- Where a usable path leads is not refused for its name's sake. -/
theorem reach_error (usable : p.Usable) (refused : t.reach cwd p = .error r) : r ≠ .unusableName := by
  rcases bind_error_iff.mp refused with spelled | ⟨_, -, lost⟩
  · rintro rfl
    unfold checkSpelling at spelled
    split at spelled
    · rename_i unusable
      obtain ⟨part, member, holds⟩ := List.any_eq_true.mp unusable
      exact Text.not_isUsable_iff.mpr holds (usable part member)
    · split at spelled <;> cases spelled
  · exact follow_error lost

theorem ofAccess_failure {file : String} (possible : p.Usable → r ≠ .unusableName) : (r.failure file).OfAccess p := by
  cases r with
  | unusableName => exact .unusable (fun usable => possible usable rfl) file
  | _ => exact .refused _

/-- Writing to a file fails as an access to its path, and so does making the directories that lead there. -/
theorem modify_access {change : List UInt8 → List UInt8} (failed : t.modify cwd p change = .error e) :
    e.OfAccess p := by
  obtain ⟨r, refused, rfl⟩ := mapError_error_iff.mp failed
  rcases bind_error_iff.mp refused with lost | ⟨l, -, blocked⟩
  · exact ofAccess_failure fun usable => reach_error usable lost
  · refine ofAccess_failure fun _ => ?_
    split at blocked
    · cases blocked
      exact nofun
    · cases blocked
    · split at blocked <;> cases blocked <;> exact nofun

theorem makeDir_error {t : FileTree} (usable : p.Usable) (refused : t.makeDir cwd p = .error r) :
    r ≠ .unusableName := by
  rcases bind_error_iff.mp refused with lost | ⟨l, -, blocked⟩
  · exact reach_error usable lost
  · split at blocked
    · cases blocked
      exact nofun
    · split at blocked <;> cases blocked <;> exact nofun

theorem acceptDir_access (possible : p.Usable → r ≠ .unusableName) (failed : (t.acceptDir cwd p r).1 = .error e) :
    e.OfAccess p := by
  unfold acceptDir at failed
  split at failed
  · cases failed
  · cases failed
    exact ofAccess_failure possible

theorem makeDirsFrom_access {anchor : Anchor} {parts : List String}
    (failed : (makeDirsFrom cwd anchor parts t).1 = .error e) : e.OfAccess ⟨anchor, parts.reverse⟩ := by
  induction parts with
  | nil => exact nomatch failed
  | cons part up ih =>
    rw [makeDirsFrom] at failed
    split at failed
    · cases failed
    · split at failed
      · -- Something above was missing, and could not be made.
        rename_i above
        refine (ih ?_).mono fun name member => ?_
        · rw [above]
          exact failed
        · rw [List.reverse_cons]
          exact List.mem_append_left [part] member
      · split at failed
        · cases failed
        · rename_i refused
          exact acceptDir_access (fun usable => makeDir_error usable refused) failed
    · rename_i refused
      exact acceptDir_access (fun usable => makeDir_error usable refused) failed

theorem makeDirs_access (failed : (t.makeDirs cwd p).1 = .error e) : e.OfAccess p := by
  have access := makeDirsFrom_access failed
  rwa [List.reverse_reverse] at access

theorem makeDirs_error (usable : p.Usable) (failed : (t.makeDirs cwd p).1 = .error e) : e.OfSystem :=
  (makeDirs_access failed).ofSystem usable

/-! ## Adding texts -/

/-- What adding texts to a file comes to: they are all there, or those at the front are, as far as the
system or their encoding went, or the file could not be opened. -/
inductive Appends (t : FileTree) (cwd : String) (p : Path) (texts : List String) : Except Failure Unit × FileTree → Prop
  | all {t' : FileTree} (encodable : ∀ s ∈ texts, Text.IsEncodable s)
      (added : t.append cwd p (texts.flatMap Text.Utf8.encode) = .ok t') : Appends t cwd p texts (.ok (), t')
  | stopped {t' : FileTree} {front : List UInt8} (within : front <+: texts.flatMap Text.Utf8.encode)
      (added : t.append cwd p front = .ok t') (cause : SystemError) : Appends t cwd p texts (.error (.system cause), t')
  | spoiled {t' : FileTree} {whole more : List String} {s : String} {fault : Text.EncodeFault}
      (cut : texts = whole ++ s :: more) (encodable : ∀ s ∈ whole, Text.IsEncodable s)
      (spoils : Text.fault? Text.isHalf s = some fault)
      (added : t.append cwd p (whole.flatMap Text.Utf8.encode) = .ok t') :
    Appends t cwd p texts (.error (.notEncodable fault ""), t')
  | refused {e : Failure} (access : e.OfAccess p) : Appends t cwd p texts (.error e, t)

theorem appendTexts_appends (t : FileTree) (cwd : String) (p : Path) (stops? : Stops) (texts : List String) :
    t.Appends cwd p texts (t.appendTexts cwd p stops? texts) := by
  obtain ⟨whole, back, rfl, encodable, bytes, ends⟩ := Text.encodeAll_front texts
  have front (n : Nat) : (whole.flatMap Text.Utf8.encode).take n <+: (whole ++ back).flatMap Text.Utf8.encode := by
    rw [List.flatMap_append]
    exact (List.take_prefix n _).trans (List.prefix_append _ _)
  unfold appendTexts
  simp only [bytes]
  cases stops : stops? t (whole.flatMap Text.Utf8.encode) with
  | some stop =>
    obtain ⟨taken, cause⟩ := stop
    dsimp only
    cases added : t.append cwd p ((whole.flatMap Text.Utf8.encode).take taken) with
    | error e => exact .refused (modify_access added)
    | ok t' => exact .stopped (front taken) added cause
  | none =>
    cases added : t.append cwd p (whole.flatMap Text.Utf8.encode) with
    | error e => exact .refused (modify_access added)
    | ok t' =>
      rcases ends with ⟨rfl, clean⟩ | ⟨s, more, fault, rfl, spoils, faulty⟩
      · simp only [clean]
        rw [List.append_nil]
        exact .all encodable added
      · simp only [faulty]
        exact .spoiled rfl encodable spoils added

/-- However it ends, what has been added to the file is a front of the texts. -/
theorem Appends.added {texts : List String} {r : Except Failure Unit × FileTree} (appends : t.Appends cwd p texts r) :
    r.2 = t ∨ ∃ front, front <+: texts.flatMap Text.Utf8.encode ∧ t.append cwd p front = .ok r.2 := by
  cases appends with
  | all _ added => exact .inr ⟨_, List.prefix_rfl, added⟩
  | stopped within added => exact .inr ⟨_, within, added⟩
  | spoiled cut _ _ added =>
    refine .inr ⟨_, ?_, added⟩
    rw [cut, List.flatMap_append]
    exact List.prefix_append _ _
  | refused => exact .inl rfl

end FileTree

end PltKeeper
