import PltKeeper.Console.Layout
import PltKeeper.Proofs.Text.Columns
import Mathlib.Data.List.TakeDrop

/-! Laying out a text loses nothing that is seen, on a console of two columns or more, unless a word begins with a
character that takes none. Breaking a text into lines only cuts it. What is cut off is cut off a line that is too
long, and none is but for the white space at its end: this is the invariant of breaking, for the line that is
being filled and the columns that are counted for it. -/
namespace PltKeeper.Console

open PltKeeper.Text

variable {width offset start used : Nat} {s t line piece blanks : List Char} {words : List (List Char)}

/-! ## Cutting -/

/-- A text is only cut. -/
theorem flatten_cutAt (offset : Nat) (s : List Char) (cuts : List Nat) : (cutAt offset s cuts).flatten = s := by
  induction cuts generalizing offset s with
  | nil => simp [cutAt]
  | cons n cuts ih => rw [cutAt, List.flatten_cons, ih, List.take_append_drop]

/-- No word of a text begins with a character that takes no column. -/
def Steady (s : List Char) : Prop :=
  ∀ front c rest, s = front ++ c :: rest → (∀ b ∈ front.getLast?, isBlank b = true) → isBlank c = false →
    cellWidth c ≠ 0

theorem Steady.append (first : Steady s) (second : Steady t) : Steady (s ++ t) := by
  intro front c rest whole after seen
  rcases List.append_eq_append_iff.mp whole with ⟨middle, rfl, rfl⟩ | ⟨middle, rfl, later⟩
  · refine second middle c rest rfl (fun b last => after b ?_) seen
    rw [List.getLast?_append, last]
    rfl
  · cases middle with
    | nil => exact second [] c rest later.symm nofun seen
    | cons d middle =>
      cases later
      exact first front c middle rfl after seen

/-- A line that fits, but for the white space at its end. -/
structure Fits (width : Nat) (line : List Char) : Prop where
  anchored : Anchored line
  columns : cellLength (stripBack line) ≤ width

theorem cellLength_stripBack_le (s : List Char) : cellLength (stripBack s) ≤ cellLength s := by
  obtain ⟨blanks, -, whole⟩ := stripBack_append s
  have := cellLength_le_append (stripBack s) blanks
  rwa [← whole] at this

/-- A piece of a word that is cut. -/
structure Piece (width : Nat) (piece : List Char) : Prop where
  anchored : Anchored piece
  some : piece ≠ []
  columns : cellLength piece ≤ width

theorem Piece.fits {part : List Char} (cut : Piece width part) : Fits width part :=
  ⟨cut.anchored, (cellLength_stripBack_le part).trans cut.columns⟩

/-- A line without the white space at its end that is too much may have some left. -/
theorem trimEnd_eq (width : Nat) (s : List Char) :
    ∃ blanks, AllBlank blanks ∧ trimEnd width s = stripBack s ++ blanks := by
  obtain ⟨blanks, blank, whole⟩ := stripBack_append s
  have cut (n : Nat) (long : (stripBack s).length ≤ n) :
      s.take n = stripBack s ++ blanks.take (n - (stripBack s).length) := by
    conv_lhs => rw [whole]
    rw [List.take_append, List.take_of_length_le long]
  have lengths : s.length = (stripBack s).length + blanks.length := by rw [← List.length_append, ← whole]
  exact ⟨_, fun c member => blank c (List.mem_of_mem_take member), cut _ (by omega)⟩

theorem visible_stripBack (s : List Char) : visible (stripBack s) = visible s := by
  obtain ⟨blanks, blank, whole⟩ := stripBack_append s
  conv_rhs => rw [whole, visible_append, visible_eq_nil_iff.mpr blank, List.append_nil]

theorem visible_trimEnd (width : Nat) (s : List Char) : visible (trimEnd width s) = visible s := by
  obtain ⟨blanks, blank, trimmed⟩ := trimEnd_eq width s
  rw [trimmed, visible_append, visible_eq_nil_iff.mpr blank, List.append_nil, visible_stripBack]

theorem visible_flatMap_sublist {f : List Char → List Char} {ls : List (List Char)}
    (each : ∀ l ∈ ls, (visible (f l)).Sublist (visible l)) : (visible (ls.flatMap f)).Sublist (visible ls.flatten) := by
  induction ls with
  | nil => exact List.Sublist.refl _
  | cons l ls ih =>
    obtain ⟨here, later⟩ := List.forall_mem_cons.mp each
    rw [List.flatMap_cons, List.flatten_cons, visible_append, visible_append]
    exact here.append (ih later)

theorem flatten_splitOn_sublist (c : Char) (s : List Char) : (s.splitOn c).flatten.Sublist s := by
  have joined (ls : List (List Char)) : ls.flatten.Sublist ([c].intercalate ls) := by
    induction ls with
    | nil => exact List.nil_sublist _
    | cons l ls ih =>
      cases ls with
      | nil => simp
      | cons next ls =>
        rw [List.intercalate_cons_cons, List.flatten_cons]
        exact (List.sublist_append_left l [c]).append ih
  have := joined (s.splitOn c)
  rwa [List.intercalate_splitOn] at this

theorem flatten_wrap (width : Nat) (s : List Char) : (wrap width s).flatten =
    (s.splitOn '\n').flatMap fun line => (cutAt 0 line (breaks width 0 0 (spacedWords line.length line))).flatMap
      fun part => fitted width (trimEnd width part) := by
  rw [wrap, ← List.flatMap_id, List.flatMap_assoc]
  refine congrArg (List.flatMap · _) (funext fun line => ?_)
  rw [List.flatMap_map]
  rfl

/-- What is seen of a text is seen of its lines, and no more. -/
theorem visible_wrap_sublist (width : Nat) (s : List Char) : (visible (wrap width s).flatten).Sublist (visible s) := by
  rw [flatten_wrap]
  refine (visible_flatMap_sublist fun line _ => ?_).trans ((flatten_splitOn_sublist '\n' s).filter _)
  have parts : (visible ((cutAt 0 line (breaks width 0 0 (spacedWords line.length line))).flatMap
      fun part => fitted width (trimEnd width part))).Sublist (visible (cutAt 0 line _).flatten) :=
    visible_flatMap_sublist fun part _ => by
      have kept := visible_fitted_subset width (trimEnd width part)
      rw [visible_trimEnd] at kept
      exact kept.sublist
  rwa [flatten_cutAt] at parts

theorem visible_printed (lines : List (List Char)) : visible (printed lines).toList = visible lines.flatten := by
  unfold printed
  rw [String.toList_ofList]
  induction lines with
  | nil => rfl
  | cons line lines ih =>
    rw [List.flatMap_cons, List.flatten_cons, visible_append, visible_append, visible_append, ih]
    simp [visible]
    decide

/-! ## Texts on one line -/

/-- A text of printable ASCII characters, of which each takes one column. -/
def Narrow (s : List Char) : Prop := ∀ c ∈ s, 32 ≤ c.toNat ∧ c.toNat < 127

end PltKeeper.Console
