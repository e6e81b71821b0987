import PltKeeper.Path.Canonical
import PltKeeper.Proofs.Path.Pieces

/-! The key of a file is a fixed point: an absolute path whose components are in order reads back
from its text unchanged, and a key has no `..` left to remove. Seen from an absolute working
directory, keys are therefore their own keys. -/
namespace PltKeeper.Path

/-- What stands between two slashes of a path: a text that is neither empty nor a single dot. -/
structure IsComponent (part : String) : Prop where
  /-- It is not empty. -/
  nonempty : part ≠ ""
  /-- It is not the directory itself. -/
  notHere : part ≠ "."
  /-- It has no slash in it. -/
  noSlash : '/' ∉ part.toList

instance (part : String) : Decidable (IsComponent part) :=
  decidable_of_iff (part ≠ "" ∧ part ≠ "." ∧ '/' ∉ part.toList)
    ⟨fun ⟨nonempty, notHere, noSlash⟩ => ⟨nonempty, notHere, noSlash⟩,
      fun ⟨nonempty, notHere, noSlash⟩ => ⟨nonempty, notHere, noSlash⟩⟩

theorem isComponent_of_mem_components {s part : String} (member : part ∈ components s) :
    IsComponent part := by
  simp only [components, List.mem_filter, List.mem_map, Bool.and_eq_true, decide_eq_true_eq] at member
  obtain ⟨⟨piece, member, rfl⟩, nonempty, notHere⟩ := member
  exact ⟨nonempty, notHere, by simpa using not_mem_of_mem_splitOn member⟩

theorem filter_components {parts : List String} (proper : ∀ part ∈ parts, IsComponent part) :
    parts.filter (fun part => part ≠ "" && part ≠ ".") = parts := by
  rw [List.filter_eq_self]
  intro part member
  simp [(proper part member).nonempty, (proper part member).notHere]

/-- A joined list is cut into the list again. -/
theorem components_joined {parts : List String} (proper : ∀ part ∈ parts, IsComponent part) :
    components ("/".intercalate parts) = parts := by
  cases parts with
  | nil => rfl
  | cons first rest =>
    rw [components_eq, pieces_joined (by simp) fun part member => (proper part member).noSlash]
    exact filter_components proper

/-- A joined list starts with no slash. -/
theorem head_joined {parts : List String} (proper : ∀ part ∈ parts, IsComponent part) :
    ("/".intercalate parts).toList.head? ≠ some '/' := by
  cases parts with
  | nil => simp
  | cons first rest =>
    have firstProper := proper first List.mem_cons_self
    cases chars : first.toList with
    | nil => exact absurd (String.toList_eq_nil_iff.mp chars) firstProper.nonempty
    | cons c cs =>
      have different : c ≠ '/' := by
        rintro rfl
        exact firstProper.noSlash (by simp [chars])
      rw [String.toList_intercalate]
      cases rest <;> simp [chars, different]

/-! ## Removing `..` -/

theorem mem_of_mem_collapse {parts : List String} {part : String} (member : part ∈ collapse parts) :
    part ∈ parts ∧ part ≠ ".." := by
  have each : ∀ (parts kept : List String), (∀ x ∈ kept, x ≠ "..") →
      part ∈ parts.foldl (fun kept part => if part = ".." then kept.tail else part :: kept) kept →
      (part ∈ parts ∨ part ∈ kept) ∧ part ≠ ".." := by
    intro parts
    induction parts with
    | nil =>
      intro kept plain member
      exact ⟨.inr member, plain part member⟩
    | cons next rest ih =>
      intro kept plain member
      simp only [List.foldl_cons] at member
      by_cases up : next = ".."
      · rw [if_pos up] at member
        have later := ih kept.tail (fun x inTail => plain x (List.mem_of_mem_tail inTail)) member
        refine ⟨?_, later.2⟩
        rcases later.1 with inRest | inKept
        · exact .inl (List.mem_cons_of_mem _ inRest)
        · exact .inr (List.mem_of_mem_tail inKept)
      · rw [if_neg up] at member
        have later := ih (next :: kept) (fun x inKept => by
          rcases List.mem_cons.mp inKept with rfl | inKept
          · exact up
          · exact plain x inKept) member
        refine ⟨?_, later.2⟩
        rcases later.1 with inRest | inKept
        · exact .inl (List.mem_cons_of_mem _ inRest)
        · rcases List.mem_cons.mp inKept with rfl | inKept
          · exact .inl List.mem_cons_self
          · exact .inr inKept
  have found := each parts [] (by simp) (List.mem_reverse.mp member)
  exact ⟨found.1.resolve_right List.not_mem_nil, found.2⟩

theorem collapse_plain {parts : List String} (plain : ".." ∉ parts) : collapse parts = parts := by
  have each : ∀ (parts kept : List String), ".." ∉ parts →
      parts.foldl (fun kept part => if part = ".." then kept.tail else part :: kept) kept =
        parts.reverse ++ kept := by
    intro parts
    induction parts with
    | nil => intro kept plain; rfl
    | cons next rest ih =>
      intro kept plain
      have ordinary : next ≠ ".." := fun same => plain (by simp [same])
      simp only [List.foldl_cons, ordinary, if_false]
      rw [ih _ fun member => plain (List.mem_cons_of_mem _ member)]
      simp
  simp [collapse, each parts [] plain]

/-! ## Joined paths -/

variable {cwd : String} {p q : Path}

/-- A working directory that is absolute. -/
def Rooted (cwd : String) : Prop := (parse cwd).isAbsolute = true

instance (cwd : String) : Decidable (Rooted cwd) := inferInstanceAs (Decidable (_ = true))

theorem isAbsolute_join (rooted : Rooted cwd) (p : Path) : (parse cwd / p).isAbsolute = true := by
  show (Path.join (parse cwd) p).isAbsolute = true
  unfold Path.join
  split
  · assumption
  · exact rooted

/-- A path whose components all are what may stand between slashes. -/
def Proper (p : Path) : Prop := ∀ part ∈ p.parts, IsComponent part

theorem proper_parse (s : String) : (parse s).Proper := fun _ => isComponent_of_mem_components

/-- A path reads back from its text. -/
theorem Proper.parse_text (proper : p.Proper) : parse p.text = p := by
  obtain ⟨anchor, parts⟩ := p
  by_cases bare : anchor = .relative ∧ parts = []
  · obtain ⟨rfl, rfl⟩ := bare
    rfl
  · have whole : text ⟨anchor, parts⟩ = Anchor.text anchor ++ "/".intercalate parts := by
      simpa [text] using fun relative none => absurd ⟨relative, none⟩ bare
    have start : anchorOf (Anchor.text anchor ++ "/".intercalate parts).toList = anchor := by
      rw [anchorOf_eq, slashes_append (.inl (head_joined proper))]
      cases anchor <;> rfl
    rw [whole, parse, start, components_anchor, components_joined proper]

theorem Proper.join (first : p.Proper) (second : q.Proper) : (p / q).Proper := by
  intro part member
  have member : part ∈ (Path.join p q).parts := member
  unfold Path.join at member
  split at member
  · exact second part member
  · rcases List.mem_append.mp member with member | member
    · exact first part member
    · exact second part member

/-- Without `..` on either side there is none in a path that is seen from the working directory. -/
theorem plain_join (working : ".." ∉ components cwd) (plain : ".." ∉ p.parts) : ".." ∉ (parse cwd / p).parts := by
  show ".." ∉ (Path.join (parse cwd) p).parts
  unfold Path.join
  split
  · exact plain
  · exact fun member => (List.mem_append.mp member).elim working plain

/-- What is below a directory, seen from the working directory, is below what the directory is seen as. -/
theorem join_below (p q : Path) (parts : List String) :
    p / (q / ⟨.relative, parts⟩) = ⟨(p / q).anchor, (p / q).parts ++ parts⟩ := by
  obtain ⟨anchor, front⟩ := q
  cases anchor <;> simp [HDiv.hDiv, Div.div, join, isAbsolute]

/-- The directory above a path is the same one from wherever it is seen, if the path itself names it. -/
theorem parent_name_join (named : q.parent.name ≠ "") : (p / q).parent.name = q.parent.name := by
  show (Path.join p q).parent.name = q.parent.name
  unfold Path.join
  split
  · rfl
  · cases last : q.parts.dropLast.getLast? with
    | none => exact absurd (by simp [Path.parent, Path.name, last]) named
    | some name =>
      have some : q.parts ≠ [] := by
        intro none
        simp [none] at last
      simp [Path.parent, Path.name, List.dropLast_append_of_ne_nil some, List.getLast?_append, last]

/-! ## Keys -/

/-- A path without the `..` in it. -/
def settled (p : Path) : Path := { p with parts := collapse p.parts }

theorem Proper.settled (proper : p.Proper) : p.settled.Proper :=
  fun part member => proper part (mem_of_mem_collapse member).1

theorem settled_settled (p : Path) : p.settled.settled = p.settled := by
  have plain : ".." ∉ p.settled.parts := fun member => (mem_of_mem_collapse member).2 rfl
  rw [Path.settled, collapse_plain plain]

/-- The text of an absolute path names the path wherever it is seen from. -/
theorem absolute_text (rooted : p.isAbsolute = true) (proper : p.Proper) : absolute cwd p.text = p := by
  show Path.join (parse cwd) (parse p.text) = p
  rw [proper.parse_text, Path.join, if_pos rooted]

/-- The key of an absolute path reads back as the path, settled. -/
theorem parse_canonical (absolute : p.isAbsolute = true) (proper : p.Proper) :
    parse (canonical cwd p.text) = p.settled := by
  rw [canonical, absolute_text absolute proper]
  exact proper.settled.parse_text

/-- The key of a key is that key. -/
theorem canonical_canonical {cwd : String} (rooted : Rooted cwd) (file : String) :
    canonical cwd (canonical cwd file) = canonical cwd file := by
  let p := (absolute cwd file).settled
  have away : p.isAbsolute = true := isAbsolute_join rooted (parse file)
  have proper : p.Proper := ((proper_parse cwd).join (proper_parse file)).settled
  show (absolute cwd p.text).settled.text = p.text
  rw [absolute_text away proper, show p.settled = p from settled_settled _]

end PltKeeper.Path
