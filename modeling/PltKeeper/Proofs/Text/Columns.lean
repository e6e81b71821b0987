import PltKeeper.Text.CellWidth
import PltKeeper.Proofs.Text.Lines
import Mathlib.Data.List.DropRight

/-! What is seen of a text that is cut down to so many columns. Its columns are counted and its clusters are read
side by side, so one lemma says what the next character does to both. A text takes no more columns than its parts
do by themselves if each begins with a character that takes some; and if only white space lies beyond the columns
that there are, then nothing that is seen is cut off. -/
namespace PltKeeper.Text

variable {c : Char} {s t blanks : List Char} {n : Nat} {g : Cluster} {joined : Bool} {last : Option Char}

/-! ## What is seen -/

/-- The characters of a text that are seen: all but white space. -/
def visible (s : List Char) : List Char := s.filter (!isBlank ·)

@[simp] theorem visible_append : visible (s ++ t) = visible s ++ visible t := List.filter_append s t

theorem visible_eq_nil_iff : visible s = [] ↔ AllBlank s := by simp [visible, AllBlank]

/-- A text is what is left of it without the white space at its end, and that white space. -/
theorem stripBack_append (s : List Char) : ∃ blanks, AllBlank blanks ∧ s = stripBack s ++ blanks :=
  ⟨s.rtakeWhile isBlank, fun _ => List.mem_rtakeWhile_imp, List.rdropWhile_append_rtakeWhile.symm⟩

/-! ## What a character does -/

/-- A text whose first character, if there is one, takes columns. -/
def Anchored (s : List Char) : Prop := ∀ c ∈ s.head?, cellWidth c ≠ 0

theorem Anchored.append (anchored : Anchored s) (some : s ≠ []) (t : List Char) : Anchored (s ++ t) := by
  cases s with
  | nil => exact absurd rfl some
  | cons c s => exact anchored

/-- Of what was read last it only matters whether a selector would widen it. -/
theorem cellLengthFrom_congr {last' : Option Char} (same : last.any isWidened = last'.any isWidened) (joined : Bool) :
    cellLengthFrom joined last s = cellLengthFrom joined last' s := by
  induction s generalizing joined last last' with
  | nil => rfl
  | cons c s ih => simp only [cellLengthFrom, ih same, same]

/-- What the next character does, to the columns and to the clusters: it adds columns, at most those that a
selector may add, and joins the cluster that is being read, or it takes columns of its own and begins another. -/
theorem read_cases (joined : Bool) (last : Option Char) (c : Char) :
    (∃ columns joined' last',
      (∀ rest, cellLengthFrom joined last (c :: rest) = columns + cellLengthFrom joined' last' rest) ∧
      (∀ g rest, clustersFrom g joined last (c :: rest) = clustersFrom (g.extend c columns) joined' last' rest) ∧
      columns + (last'.any isWidened).toNat ≤ (last.any isWidened).toNat ∧ (isBlank c = true → columns = 0)) ∨
    cellWidth c ≠ 0 ∧
      (∀ rest, cellLengthFrom joined last (c :: rest) = cellWidth c + cellLengthFrom false (some c) rest) ∧
      ∀ g rest, clustersFrom g joined last (c :: rest) = g :: clustersFrom ⟨[c], cellWidth c⟩ false (some c) rest := by
  by_cases join : joined = true
  · exact .inl ⟨0, false, last, by simp [cellLengthFrom, join], by simp [clustersFrom, join], by simp, fun _ => rfl⟩
  by_cases joins : c = joiner
  · exact .inl ⟨0, true, last, by simp [cellLengthFrom, join, joins], by simp [clustersFrom, join, joins], by simp,
      fun _ => rfl⟩
  by_cases selects : c = emojiSelector
  · subst selects
    have seen : isBlank emojiSelector ≠ true := by decide
    cases widens : last.any isWidened with
    | true =>
      exact .inl ⟨1, false, none, by simp [cellLengthFrom, join, joins, widens],
        by simp [clustersFrom, join, joins, widens], by simp, fun blank => absurd blank seen⟩
    | false =>
      refine .inl ⟨0, false, last, fun rest => ?_, by simp [clustersFrom, join, joins, widens], by simp [widens],
        fun _ => rfl⟩
      have same : (none : Option Char).any isWidened = last.any isWidened := by simp [widens]
      rw [cellLengthFrom, if_neg join, if_neg joins, if_pos rfl, if_neg (by simp [widens]), cellLengthFrom_congr same]
  by_cases flat : cellWidth c = 0
  · exact .inl ⟨0, false, last, by simp [cellLengthFrom, join, joins, selects, flat],
      by simp [clustersFrom, join, joins, selects, flat], by simp, fun _ => rfl⟩
  · exact .inr ⟨flat, by simp [cellLengthFrom, join, joins, selects, flat],
      by simp [clustersFrom, join, joins, selects, flat]⟩

/-! ## The columns of parts -/

theorem cellLengthFrom_le_append (s t : List Char) (joined : Bool) (last : Option Char) :
    cellLengthFrom joined last s ≤ cellLengthFrom joined last (s ++ t) := by
  induction s generalizing joined last with
  | nil => exact Nat.zero_le _
  | cons c s ih =>
    obtain ⟨columns, joined', last', length, -⟩ | ⟨-, length, -⟩ := read_cases joined last c
    · rw [List.cons_append, length, length]
      exact Nat.add_le_add_left (ih joined' last') columns
    · rw [List.cons_append, length, length]
      exact Nat.add_le_add_left (ih false (some c)) _

theorem cellLength_le_append (s t : List Char) : cellLength s ≤ cellLength (s ++ t) :=
  cellLengthFrom_le_append s t false none

/-! ## Clusters -/

/-- A cluster that is being read: with what follows it takes its own columns and those that are read next. -/
structure Cluster.Reads (g : Cluster) (joined : Bool) (last : Option Char) : Prop where
  anchored : Anchored g.text
  columns : ∀ rest, cellLength (g.text ++ rest) = g.width + cellLengthFrom joined last rest
  positive : 0 < g.width
  bound : g.width + (last.any isWidened).toNat ≤ 2

/-- What is cut off is cut off at the end; a space may stand for the first of it. -/
theorem visible_takeCells (n : Nat) (gs : List Cluster) :
    visible (takeCells n gs) <+: visible (gs.flatMap Cluster.text) := by
  induction gs generalizing n with
  | nil => exact List.prefix_rfl
  | cons g gs ih =>
    rw [takeCells, List.flatMap_cons, visible_append]
    split
    · exact List.nil_prefix
    split
    · rw [visible_append]
      exact (List.prefix_append_right_inj _).mpr (ih (n - g.width))
    · exact List.nil_prefix

theorem visible_fitted_subset (n : Nat) (s : List Char) : visible (fitted n s) <+: visible s := by
  unfold fitted
  split
  · exact List.prefix_rfl
  · have := visible_takeCells n (clusters s)
    rwa [flatMap_text_clusters] at this

end PltKeeper.Text
