import PltKeeper.Console.Screen
import Mathlib.Data.List.Infix

/-! What a screen makes of codes. A picture takes the place of a code and of the colons around it, and holds none
itself. So whether a text is shown as it is can be told by counting its colons. -/
namespace PltKeeper.Console.Screen

variable {screen : Screen} {s : List Char} {c : Char}

/-- A character that no picture holds. -/
def IsSign (c : Char) : Prop := c = ':' ∨ c = '\\' ∨ c = '[' ∨ Text.isHalf c = true

/-- A text from its first colon on, which was cut at its colons. -/
def behindColons (pieces : List (List Char)) : List Char := pieces.flatMap (':' :: ·)

theorem behindColons_cons (piece : List Char) (pieces : List (List Char)) :
    behindColons (piece :: pieces) = ':' :: piece ++ behindColons pieces := rfl

theorem splitOn_colon (s : List Char) : ∃ front pieces, s.splitOn ':' = front :: pieces ∧ ':' ∉ front ∧
    s = front ++ behindColons pieces := by
  induction s with
  | nil => exact ⟨[], [], rfl, nofun, rfl⟩
  | cons c s ih =>
    obtain ⟨front, pieces, cut, colonless, whole⟩ := ih
    rw [List.splitOn_cons_eq_if_modifyHead, cut]
    by_cases colon : c = ':'
    · exact ⟨[], front :: pieces, by simp [colon], nofun, by rw [colon, whole]; rfl⟩
    · refine ⟨c :: front, pieces, by simp [colon], ?_, by rw [whole, List.cons_append]⟩
      simpa using ⟨Ne.symm colon, colonless⟩

theorem pictured?_plain {code picture : List Char} (pictured : screen.pictured? code = some picture)
    (sign : IsSign c) : c ∉ picture := by
  obtain ⟨p, found, rfl⟩ := Option.map_eq_some_iff.mp pictured
  intro member
  rcases List.mem_append.mp member with inPicture | inSelector
  · obtain ⟨noColon, noSlash, noBracket, whole⟩ := screen.plain _ _ found c inPicture
    rcases sign with rfl | rfl | rfl | half
    · exact noColon rfl
    · exact noSlash rfl
    · exact noBracket rfl
    · exact nomatch half.symm.trans whole
  · have selector : ∀ d ∈ (splitCode code).2, d = '\ufe0f' ∨ d = '\ufe0e' := by
      unfold splitCode
      split
      · rename_i ending selector named
        have listed := List.mem_of_find?_eq_some named
        simp only [variants, List.mem_cons, Prod.mk.injEq, List.not_mem_nil, or_false] at listed
        rcases listed with ⟨-, rfl⟩ | ⟨-, rfl⟩ <;> simp
      · exact nofun
    rcases selector c inSelector with rfl | rfl <;> exact absurd sign (by unfold IsSign; decide)

theorem count_shownPieces_le (screen : Screen) (pieces : List (List Char)) (sign : IsSign c) :
    (screen.shownPieces pieces).count c ≤ (behindColons pieces).count c := by
  induction pieces using shownPieces.induct screen with
  | case1 => exact Nat.le_refl _
  | case2 last => simp [shownPieces, behindColons]
  | case3 code text rest blank ih =>
    rw [shownPieces, if_pos blank, behindColons_cons, List.count_append, List.count_append]
    exact Nat.add_le_add_left ih _
  | case4 code text rest word picture pictured ih =>
    have none := List.count_eq_zero.mpr (pictured?_plain pictured sign)
    rw [shownPieces, if_neg word, pictured, behindColons_cons, behindColons_cons]
    simp only [List.count_append, List.count_cons, none]
    omega
  | case5 code text rest word unknown ih =>
    rw [shownPieces, if_neg word, unknown, behindColons_cons, behindColons_cons]
    simp only [List.count_append, List.count_cons]
    omega

theorem count_shown_le (screen : Screen) (s : List Char) (sign : IsSign c) :
    (screen.shown s).count c ≤ s.count c := by
  obtain ⟨front, pieces, cut, -, whole⟩ := splitOn_colon s
  rw [shown, cut]
  conv_rhs => rw [whole]
  rw [List.count_append, List.count_append]
  exact Nat.add_le_add_left (screen.count_shownPieces_le pieces sign) _

end PltKeeper.Console.Screen
