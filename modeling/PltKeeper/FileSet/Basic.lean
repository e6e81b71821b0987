import PltKeeper.Path.Canonical
import PltKeeper.Text.Quoted

/-!
Sets of files under their canonical keys. A set is kept as its strictly increasing list, so two sets
with the same members are equal (`FileSet.ext`) and the list is the order in which files are handed
to an analysis. Each operation is pinned down by its membership lemma.
-/

namespace PltKeeper

/-- A finite set of files. -/
structure FileSet where
  /-- The members in increasing order. -/
  toList : List String
  /-- Every member stands before every later one. -/
  increasing : toList.Pairwise (· < ·)

namespace FileSet

instance : DecidableEq FileSet := fun a b =>
  if h : a.toList = b.toList then .isTrue (by cases a; cases b; simp_all)
  else .isFalse fun e => h (e ▸ rfl)

instance : Membership String FileSet := ⟨fun s file => file ∈ s.toList⟩

theorem mem_def {s : FileSet} {file : String} : file ∈ s ↔ file ∈ s.toList := Iff.rfl

instance (file : String) (s : FileSet) : Decidable (file ∈ s) :=
  inferInstanceAs (Decidable (file ∈ s.toList))

/-- Two increasing lists with the same members are equal. -/
theorem eq_of_increasing : ∀ {xs ys : List String}, xs.Pairwise (· < ·) → ys.Pairwise (· < ·) →
    (∀ a, a ∈ xs ↔ a ∈ ys) → xs = ys
  | [], [], _, _, _ => rfl
  | [], y :: _, _, _, same => by simpa using same y
  | x :: _, [], _, _, same => by simpa using same x
  | x :: xs, y :: ys, hx, hy, same => by
    rw [List.pairwise_cons] at hx hy
    have head : x = y := by
      rcases List.mem_cons.1 ((same x).1 List.mem_cons_self) with h | h
      · exact h
      · rcases List.mem_cons.1 ((same y).2 List.mem_cons_self) with h' | h'
        · exact h'.symm
        · exact absurd (hx.1 y h') (String.lt_asymm (hy.1 x h))
    subst head
    have tails : ∀ a, a ∈ xs ↔ a ∈ ys := by
      intro a
      have := same a
      simp only [List.mem_cons] at this
      constructor
      · intro h
        rcases this.1 (.inr h) with e | h'
        · exact absurd (hx.1 a h) (e ▸ String.lt_irrefl a)
        · exact h'
      · intro h
        rcases this.2 (.inr h) with e | h'
        · exact absurd (hy.1 a h) (e ▸ String.lt_irrefl a)
        · exact h'
    rw [eq_of_increasing hx.2 hy.2 tails]

/-- A set is determined by its members. -/
theorem ext {s t : FileSet} (same : ∀ file, file ∈ s ↔ file ∈ t) : s = t := by
  cases s with
  | mk xs hx =>
    cases t with
    | mk ys hy =>
      have : xs = ys := eq_of_increasing hx hy same
      subst this
      rfl

/-- Puts a file into an increasing list unless it is there. -/
def insertSorted (file : String) : List String → List String
  | [] => [file]
  | x :: xs =>
    if file = x then x :: xs
    else if file < x then file :: x :: xs
    else x :: insertSorted file xs

theorem mem_insertSorted {file a : String} {xs : List String} :
    a ∈ insertSorted file xs ↔ a = file ∨ a ∈ xs := by
  induction xs with
  | nil => simp [insertSorted]
  | cons x xs ih => grind [insertSorted]

theorem increasing_insertSorted {file : String} {xs : List String}
    (h : xs.Pairwise (· < ·)) : (insertSorted file xs).Pairwise (· < ·) := by
  induction xs with
  | nil => simp [insertSorted]
  | cons x xs ih =>
    rw [List.pairwise_cons] at h
    unfold insertSorted
    split
    · exact List.pairwise_cons.2 h
    · split
      · rename_i below
        refine List.pairwise_cons.2 ⟨?_, List.pairwise_cons.2 h⟩
        intro a ha
        rcases List.mem_cons.1 ha with e | ha
        · exact e ▸ below
        · exact String.lt_trans below (h.1 a ha)
      · rename_i differs above
        refine List.pairwise_cons.2 ⟨?_, ih h.2⟩
        intro a ha
        rcases mem_insertSorted.1 ha with e | ha
        · subst e
          rcases String.le_total a x with le | le
          · exact absurd (String.le_antisymm le (String.not_lt.1 above)) differs
          · exact Std.lt_of_le_of_ne le (Ne.symm differs)
        · exact h.1 a ha

/-- The set without members. -/
def empty : FileSet := ⟨[], .nil⟩

instance : EmptyCollection FileSet := ⟨empty⟩
instance : Inhabited FileSet := ⟨empty⟩

/-- The set and one more file. -/
def insert (file : String) (s : FileSet) : FileSet :=
  ⟨insertSorted file s.toList, increasing_insertSorted s.increasing⟩

/-- The set of the texts in a list. -/
def ofList (files : List String) : FileSet := files.foldr insert empty

/-- The set of the files that the texts name, seen from the working directory. -/
def of (cwd : String) (files : List String) : FileSet :=
  ofList (files.map (Path.canonical cwd))

/-- The members that satisfy `p`. -/
def filter (p : String → Bool) (s : FileSet) : FileSet :=
  ⟨s.toList.filter p, s.increasing.filter p⟩

/-- The members of either set. -/
def union (s t : FileSet) : FileSet := s.toList.foldr insert t

/-- The members of both sets. -/
def inter (s t : FileSet) : FileSet := s.filter fun file => decide (file ∈ t)

/-- The members of the first set that the second lacks. -/
def diff (s t : FileSet) : FileSet := s.filter fun file => !decide (file ∈ t)

instance : Union FileSet := ⟨union⟩
instance : Inter FileSet := ⟨inter⟩
instance : SDiff FileSet := ⟨diff⟩

/-- How many members a set has. -/
def size (s : FileSet) : Nat := s.toList.length

/-- Whether a set has no members. -/
def isEmpty (s : FileSet) : Bool := s.toList.isEmpty

@[simp] theorem not_mem_empty {file : String} : file ∉ (∅ : FileSet) := List.not_mem_nil

@[simp] theorem mem_insert {a file : String} {s : FileSet} :
    a ∈ s.insert file ↔ a = file ∨ a ∈ s := mem_insertSorted

theorem mem_foldr_insert {a : String} {files : List String} {s : FileSet} :
    a ∈ files.foldr insert s ↔ a ∈ files ∨ a ∈ s := by
  induction files with
  | nil => simp
  | cons x xs ih => simp [ih, or_assoc]

@[simp] theorem mem_ofList {a : String} {files : List String} : a ∈ ofList files ↔ a ∈ files := by
  have : a ∉ empty := List.not_mem_nil
  simp [ofList, mem_foldr_insert, this]

@[simp] theorem mem_of {a cwd : String} {files : List String} :
    a ∈ of cwd files ↔ ∃ file ∈ files, Path.canonical cwd file = a := by
  simp [of]

@[simp] theorem mem_filter {a : String} {p : String → Bool} {s : FileSet} :
    a ∈ s.filter p ↔ a ∈ s ∧ p a = true := List.mem_filter

@[simp] theorem mem_union {a : String} {s t : FileSet} : a ∈ s ∪ t ↔ a ∈ s ∨ a ∈ t :=
  mem_foldr_insert

@[simp] theorem mem_inter {a : String} {s t : FileSet} : a ∈ s ∩ t ↔ a ∈ s ∧ a ∈ t := by
  show a ∈ s.filter _ ↔ _
  simp

@[simp] theorem mem_diff {a : String} {s t : FileSet} : a ∈ s \ t ↔ a ∈ s ∧ a ∉ t := by
  show a ∈ s.filter _ ↔ _
  simp

theorem isEmpty_iff {s : FileSet} : s.isEmpty = true ↔ s = ∅ := by
  constructor
  · intro h
    have none : s.toList = [] := List.isEmpty_iff.1 h
    exact ext fun file => by
      rw [mem_def, none]
      exact ⟨fun h => absurd h List.not_mem_nil, fun h => absurd h not_mem_empty⟩
  · rintro rfl
    rfl

/-- A set as messages show it. -/
def describe (s : FileSet) : String :=
  "FileSet([" ++ ", ".intercalate (s.toList.map Text.quoted) ++ "])"

end FileSet

end PltKeeper
