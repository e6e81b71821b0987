import PltKeeper.Path.Basic
import Mathlib.Data.List.TakeWhile

/-! The text of a path, cut at its slashes. Its components are the pieces that are neither empty nor a single dot,
and where it starts is told by how many slashes stand at its front. -/
namespace PltKeeper.Path

variable {s u v : String} {front back parts : List String}

theorem takeWhile_append_of_apart {α : Type} {p : α → Bool} {xs ys : List α}
    (apart : ys.takeWhile p = [] ∨ ∃ x ∈ xs, p x = false) : (xs ++ ys).takeWhile p = xs.takeWhile p := by
  rw [List.takeWhile_append]
  split
  · rename_i whole
    have front : xs.takeWhile p <+: xs := List.takeWhile_prefix p
    have all : xs.takeWhile p = xs := front.eq_of_length whole
    rcases apart with none | ⟨x, member, fails⟩
    · rw [none, all, List.append_nil]
    · rw [List.takeWhile_eq_self_iff.mp all x member] at fails
      cases fails
  · rfl

theorem not_mem_of_mem_splitOn {c : Char} {chars piece : List Char}
    (member : piece ∈ chars.splitOn c) : c ∉ piece := by
  induction chars generalizing piece with
  | nil => simp_all
  | cons d rest ih =>
    rw [List.splitOn_cons_eq_if_modifyHead] at member
    split at member
    · rcases List.mem_cons.mp member with rfl | member
      · exact List.not_mem_nil
      · exact ih member
    · rename_i different
      obtain ⟨head, tail, split⟩ := List.exists_cons_of_ne_nil (List.splitOn_ne_nil c rest)
      rw [split] at member ih
      rcases List.mem_cons.mp member with rfl | member
      · have inner := ih List.mem_cons_self
        simp only [List.mem_cons, not_or]
        exact ⟨fun same => different (by simp [same]), inner⟩
      · exact ih (List.mem_cons_of_mem _ member)

/-- What stands between the slashes of a text. Nothing may stand there. -/
def pieces (s : String) : List String := (s.toList.splitOn '/').map String.ofList

/-- How many slashes a text starts with. -/
def slashes (s : String) : Nat := (s.toList.takeWhile (· = '/')).length

theorem noSlash_of_mem_pieces {piece : String} (member : piece ∈ pieces s) : '/' ∉ piece.toList := by
  obtain ⟨chars, inText, rfl⟩ := List.mem_map.mp member
  simpa using not_mem_of_mem_splitOn inText

theorem pieces_slash (u v : String) : pieces (u ++ "/" ++ v) = pieces u ++ pieces v := by
  have chars : (u ++ "/" ++ v).toList = u.toList ++ '/' :: v.toList := by simp
  rw [pieces, chars, List.splitOn_append_cons_self, List.map_append]
  rfl

theorem pieces_joined (some : parts ≠ []) (noSlash : ∀ part ∈ parts, '/' ∉ part.toList) :
    pieces ("/".intercalate parts) = parts := by
  have each : ∀ chars ∈ parts.map String.toList, '/' ∉ chars := by
    intro _ member
    obtain ⟨part, inParts, rfl⟩ := List.mem_map.mp member
    exact noSlash part inParts
  have slash : "/".toList = ['/'] := rfl
  rw [pieces, String.toList_intercalate, slash, List.splitOn_intercalate '/' each (by simpa using some), List.map_map]
  simp [Function.comp_def]

/-- Before its first piece a text has a slash for each gap. -/
theorem slashes_eq (some : ∃ piece ∈ pieces s, piece ≠ "") : slashes s = ((pieces s).takeWhile (· = "")).length := by
  unfold slashes
  unfold pieces at some ⊢
  generalize s.toList = chars at some ⊢
  induction chars with
  | nil => simp at some
  | cons c cs ih =>
    rw [List.splitOn_cons_eq_if_modifyHead] at some ⊢
    by_cases slash : c = '/'
    · subst slash
      have later : ∃ piece ∈ (cs.splitOn '/').map String.ofList, piece ≠ "" := by simpa using some
      simpa using ih later
    · obtain ⟨head, tail, split⟩ := List.exists_cons_of_ne_nil (List.splitOn_ne_nil '/' cs)
      simp [slash, split]

/-- The gaps of a text that are counted all stand ahead of a component. -/
theorem slashes_of_pieces (split : pieces s = front ++ back)
    (component : (∃ piece ∈ front, piece ≠ "") ∨ ∃ first rest, back = first :: rest ∧ first ≠ "") :
    slashes s = (front.takeWhile (· = "")).length := by
  have some : ∃ piece ∈ pieces s, piece ≠ "" := by
    rw [split]
    rcases component with ⟨piece, member, visible⟩ | ⟨first, rest, rfl, visible⟩
    · exact ⟨piece, List.mem_append_left back member, visible⟩
    · exact ⟨first, by simp, visible⟩
  rw [slashes_eq some, split, takeWhile_append_of_apart]
  rcases component with ⟨piece, member, visible⟩ | ⟨first, rest, rfl, visible⟩
  · exact .inr ⟨piece, member, by simpa using visible⟩
  · exact .inl (by simp [visible])

theorem components_eq (s : String) : components s = (pieces s).filter fun part => part ≠ "" && part ≠ "." := rfl

theorem components_slash (u v : String) : components (u ++ "/" ++ v) = components u ++ components v := by
  rw [components_eq, pieces_slash, List.filter_append]
  rfl

theorem components_anchor (anchor : Anchor) (s : String) : components (Anchor.text anchor ++ s) = components s := by
  have one (s : String) : components ("/" ++ s) = components s := components_slash "" s
  cases anchor with
  | relative => rfl
  | root => exact one s
  | doubleRoot => exact (one ("/" ++ s)).trans (one s)

/-! ## Where a path starts -/

/-- The anchor of a text that starts with so many slashes. -/
def Anchor.ofSlashes : Nat → Anchor
  | 0 => .relative
  | 2 => .doubleRoot
  | _ => .root

theorem takeWhile_of_head {chars : List Char} (other : ∀ rest, chars ≠ '/' :: rest) :
    chars.takeWhile (· = '/') = [] := by
  cases chars with
  | nil => rfl
  | cons c rest =>
    have different : c ≠ '/' := by
      rintro rfl
      exact other rest rfl
    simp [different]

theorem anchorOf_eq (s : String) : anchorOf s.toList = Anchor.ofSlashes (slashes s) := by
  unfold slashes
  generalize s.toList = chars
  unfold anchorOf
  split
  · simp [Anchor.ofSlashes]
  · rename_i rest noThird
    simp [takeWhile_of_head noThird, Anchor.ofSlashes]
  · rename_i rest _ noSecond
    simp [takeWhile_of_head noSecond, Anchor.ofSlashes]
  · rename_i noFirst
    simp [takeWhile_of_head noFirst, Anchor.ofSlashes]

theorem isAbsolute_iff : (parse s).isAbsolute = true ↔ slashes s ≠ 0 := by
  rw [isAbsolute, parse, anchorOf_eq]
  unfold Anchor.ofSlashes
  split <;> simp_all

theorem isAbsolute_iff_head : (parse s).isAbsolute = true ↔ s.toList.head? = some '/' := by
  rw [isAbsolute_iff, slashes]
  cases s.toList with
  | nil => simp
  | cons c rest => by_cases slash : c = '/' <;> simp [slash]

/-- The slashes at the start end before what follows them, or within what comes first. -/
theorem slashes_append (apart : v.toList.head? ≠ some '/' ∨ ∃ c ∈ u.toList, c ≠ '/') :
    slashes (u ++ v) = slashes u := by
  rw [slashes, slashes, String.toList_append, takeWhile_append_of_apart]
  refine apart.imp (fun other => takeWhile_of_head fun rest same => other (by rw [same, List.head?_cons])) ?_
  rintro ⟨c, member, different⟩
  exact ⟨c, member, by simpa using different⟩

end PltKeeper.Path
