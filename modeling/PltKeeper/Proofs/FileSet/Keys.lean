import PltKeeper.FileSet.Delta
import PltKeeper.Proofs.Path.Canonical
import Mathlib.Data.List.Perm.Subperm
import Mathlib.Tactic.Tauto

/-! Sets of keys. A set whose members are their own keys survives being handed to an analysis, which
takes the keys of the files it is given once more; the operations of a delta stay within such sets,
and following a delta leads from what is held to exactly what is required. -/
namespace PltKeeper.FileSet

variable {cwd file : String} {s t held required : FileSet}

/-- Every member is its own key, seen from the working directory. -/
def Canonical (cwd : String) (s : FileSet) : Prop := ∀ file ∈ s, Path.canonical cwd file = file

theorem canonical_of (rooted : Path.Rooted cwd) (files : List String) : (of cwd files).Canonical cwd := by
  intro file member
  obtain ⟨given, _, rfl⟩ := mem_of.mp member
  exact Path.canonical_canonical rooted given

/-- Taking the keys of keys changes nothing. -/
theorem of_toList (canonical : s.Canonical cwd) : of cwd s.toList = s := by
  apply ext
  intro file
  rw [mem_of]
  constructor
  · rintro ⟨given, member, rfl⟩
    rw [canonical given member]
    exact member
  · intro member
    exact ⟨file, member, canonical file member⟩

theorem Canonical.union (first : s.Canonical cwd) (second : t.Canonical cwd) :
    (s ∪ t).Canonical cwd := by
  intro file member
  rcases mem_union.mp member with member | member
  · exact first file member
  · exact second file member

theorem Canonical.inter (canonical : s.Canonical cwd) (t : FileSet) : (s ∩ t).Canonical cwd :=
  fun file member => canonical file (mem_inter.mp member).1

theorem Canonical.diff (canonical : s.Canonical cwd) (t : FileSet) : (s \ t).Canonical cwd :=
  fun file member => canonical file (mem_diff.mp member).1

theorem isEmpty_toList : s.toList.isEmpty = s.isEmpty := rfl

/-! ## Counting members -/

theorem nodup_toList (s : FileSet) : s.toList.Nodup := by
  refine s.increasing.imp fun below same => ?_
  rw [same] at below
  exact String.lt_irrefl _ below

theorem count_toList (s : FileSet) (file : String) : s.toList.count file = if file ∈ s then 1 else 0 := by
  rw [s.nodup_toList.count]
  rfl

theorem size_le_of_subset (within : ∀ file ∈ s, file ∈ t) : s.size ≤ t.size :=
  (s.nodup_toList.subperm within).length_le

/-! ## Following a delta -/

/-- Without what is not required, just what is held and required is left. -/
theorem diff_diff_self : held \ (held \ required) = held ∩ required := by
  apply ext
  intro file
  simp only [mem_diff, mem_inter]
  tauto

/-- Removing what is not required and adding what is not held leads to what is required. -/
theorem inter_union_diff : (held ∩ required) ∪ (required \ held) = required := by
  apply ext
  intro file
  simp only [mem_union, mem_inter, mem_diff]
  tauto

theorem union_comm (s t : FileSet) : s ∪ t = t ∪ s :=
  ext fun _ => by simp only [mem_union, or_comm]

theorem union_eq_left_iff : s ∪ t = s ↔ ∀ file ∈ t, file ∈ s := by
  constructor
  · intro same file member
    exact same ▸ mem_union.mpr (.inr member)
  · intro within
    exact ext fun file => mem_union.trans (or_iff_left_of_imp (within file))

theorem union_empty (s : FileSet) : s ∪ ∅ = s := ext fun _ => by simp

/-- With everything held required there is nothing to remove, and all of it to check. -/
theorem delta_of_subset (within : ∀ file ∈ held, file ∈ required) :
    held \ required = ∅ ∧ held ∩ required = held := by
  constructor
  · apply ext
    intro file
    simp only [mem_diff]
    exact ⟨fun both => absurd (within file both.1) both.2,
      fun impossible => absurd impossible not_mem_empty⟩
  · apply ext
    intro file
    simp only [mem_inter]
    exact ⟨And.left, fun inHeld => ⟨inHeld, within file inHeld⟩⟩

end PltKeeper.FileSet
