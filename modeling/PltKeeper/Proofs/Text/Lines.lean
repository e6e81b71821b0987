import PltKeeper.Text.Blank
import Mathlib.Data.List.DropRight
import Mathlib.Data.List.Infix
import Mathlib.Data.List.TakeWhile

/-! Lines and the white space around them. A text that is written line by line is cut into the same lines
again, provided that no line holds a boundary of its own; white space between them gives blank lines
only. What has no boundary in it is found in a text just where it is found on one of its lines. Stripping a text
takes off white space, and all of it. -/
namespace PltKeeper.Text

variable {c : Char} {s t line gap rest : List Char}

/-- Nothing but white space. -/
def AllBlank (s : List Char) : Prop := ∀ c ∈ s, isBlank c = true

instance (s : List Char) : Decidable (AllBlank s) := List.decidableBAll _ _

/-- A text that no boundary cuts into lines. -/
def OneLine (s : List Char) : Prop := ∀ c ∈ s, isBoundary c = false

instance (s : List Char) : Decidable (OneLine s) := List.decidableBAll _ _

/-- Whatever ends a line is white space. -/
theorem isBlank_of_isBoundary (boundary : isBoundary c = true) : isBlank c = true := by
  have within : ∀ range ∈ boundaryRanges, ∃ blank ∈ blankRanges, blank.1 ≤ range.1 ∧ range.2 ≤ blank.2 := by decide
  simp only [isBlank, isBoundary, CodeRanges.covers, List.any_eq_true, Bool.and_eq_true, decide_eq_true_eq] at boundary ⊢
  obtain ⟨range, member, low, high⟩ := boundary
  obtain ⟨blank, inBlank, below, above⟩ := within range member
  exact ⟨blank, inBlank, Nat.le_trans below low, Nat.le_trans high above⟩

theorem isBoundary_of_visible (visible : isBlank c = false) : isBoundary c = false := by
  rw [Bool.eq_false_iff] at visible ⊢
  exact fun boundary => visible (isBlank_of_isBoundary boundary)

theorem allBlank_cons : AllBlank (c :: s) ↔ isBlank c = true ∧ AllBlank s := by simp [AllBlank]

theorem oneLine_nil : OneLine [] := by simp [OneLine]

theorem oneLine_cons : OneLine (c :: s) ↔ isBoundary c = false ∧ OneLine s := by simp [OneLine]

theorem OneLine.mono (inner : OneLine t) (within : s ⊆ t) : OneLine s := fun c member => inner c (within member)

theorem oneLine_append : OneLine (s ++ t) ↔ OneLine s ∧ OneLine t := by
  simp only [OneLine, List.mem_append, or_imp, forall_and]

/-! ## Cutting into lines -/

/-- One character at a time, but for a carriage return that takes the line feed after it along. -/
theorem linesFrom_cons {read : List Char} (alone : c = '\r' → rest.head? ≠ some '\n') :
    linesFrom read (c :: rest) =
      if isBoundary c then read.reverse :: linesFrom [] rest else linesFrom (c :: read) rest := by
  rw [linesFrom]
  rintro next rfl rfl
  exact alone rfl rfl

theorem linesFrom_lineFeed (read : List Char) :
    linesFrom read ('\n' :: rest) = read.reverse :: lines rest := by
  rw [linesFrom_cons fun same => absurd same (by decide)]
  rfl

theorem linesFrom_append {read : List Char} (inner : OneLine line) :
    linesFrom read (line ++ rest) = linesFrom (line.reverse ++ read) rest := by
  induction line generalizing read with
  | nil => rfl
  | cons c line ih =>
    obtain ⟨first, inner⟩ := oneLine_cons.mp inner
    have alone : c ≠ '\r' := by
      rintro rfl
      exact nomatch first
    rw [List.cons_append, linesFrom_cons fun same => absurd same alone, if_neg (by simp [first]), ih inner]
    simp

/-- A line that has been written is the first one to be read. -/
theorem lines_append (inner : OneLine line) : lines (line ++ '\n' :: rest) = line :: lines rest := by
  rw [lines, linesFrom_append inner, linesFrom_lineFeed]
  simp

/-- Lines that have been written, each with a line feed at its end, are the lines that are read. -/
theorem lines_flatMap {all : List (List Char)} (inner : ∀ line ∈ all, OneLine line) :
    lines (all.flatMap fun line => line ++ ['\n']) = all := by
  induction all with
  | nil => rfl
  | cons line all ih =>
    obtain ⟨here, inner⟩ := List.forall_mem_cons.mp inner
    rw [List.flatMap_cons, List.append_assoc, List.singleton_append, lines_append here, ih inner]

theorem OneLine.reverse (inner : OneLine s) : OneLine s.reverse := inner.mono fun _ => List.mem_reverse.mp

theorem oneLine_of_mem_linesFrom {read : List Char} (before : OneLine read) (member : line ∈ linesFrom read s) :
    OneLine line := by
  fun_induction linesFrom read s with
  | case1 => exact absurd member List.not_mem_nil
  | case2 => exact List.mem_singleton.mp member ▸ before.reverse
  | case3 read rest ih =>
    rcases List.mem_cons.mp member with rfl | later
    · exact before.reverse
    · exact ih oneLine_nil later
  | case4 read c rest _ _ ih =>
    rcases List.mem_cons.mp member with rfl | later
    · exact before.reverse
    · exact ih oneLine_nil later
  | case5 read c rest _ inner ih => exact ih (oneLine_cons.mpr ⟨Bool.eq_false_iff.mpr inner, before⟩) member

/-- Whatever a text is cut into, no boundary is left in it. -/
theorem oneLine_of_mem_lines (member : line ∈ lines s) : OneLine line := oneLine_of_mem_linesFrom oneLine_nil member

theorem linesFrom_gap {read : List Char} (blank : AllBlank gap) (before : AllBlank read) :
    ∃ blanks, (∀ line ∈ blanks, AllBlank line) ∧ linesFrom read (gap ++ '\n' :: rest) = blanks ++ lines rest := by
  have one : ∀ {read : List Char}, AllBlank read → ∀ line ∈ [read.reverse], AllBlank line := by
    intro read before line member c inLine
    rw [List.mem_singleton.mp member] at inLine
    exact before c (List.mem_reverse.mp inLine)
  -- A boundary ends the line that has been read, which is blank; what is left of the gap follows.
  have next : ∀ {read left : List Char}, AllBlank read →
      (∃ blanks, (∀ line ∈ blanks, AllBlank line) ∧ linesFrom [] left = blanks ++ lines rest) →
      ∃ blanks, (∀ line ∈ blanks, AllBlank line) ∧ read.reverse :: linesFrom [] left = blanks ++ lines rest := by
    rintro read left before ⟨blanks, each, same⟩
    refine ⟨read.reverse :: blanks, ?_, by rw [same, List.cons_append]⟩
    exact List.forall_mem_cons.mpr ⟨one before _ List.mem_cons_self, each⟩
  have none : AllBlank [] := by simp [AllBlank]
  fun_induction linesFrom read gap with
  | case1 read => exact ⟨[read.reverse], one before, linesFrom_lineFeed read⟩
  | case2 read => exact ⟨[read.reverse], one before, linesFrom_lineFeed read⟩
  | case3 read gap ih =>
    have later := ih (allBlank_cons.mp (allBlank_cons.mp blank).2).2 none
    exact next before later
  | case4 read c gap notPair boundary ih =>
    obtain ⟨-, blankGap⟩ := allBlank_cons.mp blank
    by_cases pair : c = '\r' ∧ gap = []
    · obtain ⟨rfl, rfl⟩ := pair
      exact ⟨[read.reverse], one before, rfl⟩
    · have alone : c = '\r' → (gap ++ '\n' :: rest).head? ≠ some '\n' := by
        rintro rfl first
        cases gap with
        | nil => exact pair ⟨rfl, rfl⟩
        | cons d gap =>
          obtain rfl : d = '\n' := by simpa using first
          exact notPair gap rfl rfl
      rw [List.cons_append, linesFrom_cons alone, if_pos boundary]
      exact next before (ih blankGap none)
  | case5 read c gap notPair inner ih =>
    obtain ⟨here, blankGap⟩ := allBlank_cons.mp blank
    have alone : c ≠ '\r' := by
      rintro rfl
      exact inner rfl
    rw [List.cons_append, linesFrom_cons fun same => absurd same alone, if_neg inner]
    exact ih blankGap (allBlank_cons.mpr ⟨here, before⟩)

/-- White space before a line feed, whatever boundaries are in it, gives blank lines only. -/
theorem lines_gap (blank : AllBlank gap) :
    ∃ blanks, (∀ line ∈ blanks, AllBlank line) ∧ lines (gap ++ '\n' :: rest) = blanks ++ lines rest :=
  linesFrom_gap blank (by simp [AllBlank])

/-! ## The last line -/

/-- The end of a text, from its last boundary on. -/
def lastLine (s : List Char) : List Char := s.rtakeWhile fun c => !isBoundary c

theorem oneLine_lastLine : OneLine (lastLine s) := fun c member => by
  simpa using List.mem_rtakeWhile_imp member

theorem OneLine.lastLine_eq (inner : OneLine s) : lastLine s = s :=
  List.rtakeWhile_eq_self_iff.mpr fun c member => by simp [inner c member]

/-- What stands before a boundary is not on the last line. -/
theorem lastLine_append (boundary : isBoundary c = true) : lastLine (s ++ c :: t) = lastLine t := by
  have cut : (c :: s.reverse).takeWhile (fun c => !isBoundary c) = [] :=
    List.takeWhile_cons_of_neg (by simp [boundary])
  simp only [lastLine, List.rtakeWhile, List.reverse_append, List.reverse_cons, List.append_assoc,
    List.singleton_append]
  rw [List.takeWhile_append, cut, List.append_nil]
  split
  · rename_i whole
    rw [(List.takeWhile_prefix _).eq_of_length whole]
  · rfl

theorem getLast?_linesFrom {read : List Char} {d : Char} (before : OneLine read)
    (last : (read.reverse ++ s).getLast? = some d) (inner : isBoundary d = false) :
    (linesFrom read s).getLast? = some (lastLine (read.reverse ++ s)) := by
  -- A boundary is not the end, so the last line comes of what follows it.
  have next {first left : List Char} {c : Char} (boundary : isBoundary c = true) (last : (c :: left).getLast? = some d)
      (ih : left.getLast? = some d → (linesFrom [] left).getLast? = some (lastLine left)) :
      (first :: linesFrom [] left).getLast? = some (lastLine left) := by
    cases left with
    | nil =>
      obtain rfl : c = d := by simpa using last
      simp [boundary] at inner
    | cons e rest =>
      rw [List.getLast?_cons, ih (by simpa using last)]
      rfl
  fun_induction linesFrom read s with
  | case1 read none =>
    rw [List.isEmpty_iff.mp none] at last
    exact nomatch last
  | case2 read some =>
    rw [List.append_nil, before.reverse.lastLine_eq]
    rfl
  | case3 read rest ih =>
    rw [List.append_cons, lastLine_append rfl]
    refine next rfl (c := '\n') (by simpa [List.getLast?_append, List.getLast?_cons] using last) (ih oneLine_nil)
  | case4 read c rest notPair boundary ih =>
    rw [lastLine_append boundary]
    exact next boundary (by simpa [List.getLast?_append, List.getLast?_cons] using last) (ih oneLine_nil)
  | case5 read c rest notPair visible ih =>
    have moved : read.reverse ++ c :: rest = (c :: read).reverse ++ rest := by simp
    rw [moved] at last ⊢
    exact ih (oneLine_cons.mpr ⟨Bool.eq_false_iff.mpr visible, before⟩) last

/-- Of a text that does not end with a boundary, the last line is what follows its last boundary. -/
theorem getLast?_lines {d : Char} (last : s.getLast? = some d) (inner : isBoundary d = false) :
    (lines s).getLast? = some (lastLine s) := getLast?_linesFrom oneLine_nil last inner

theorem getLast?_lastLine {d : Char} (last : s.getLast? = some d) (inner : isBoundary d = false) :
    (lastLine s).getLast? = some d := by
  obtain ⟨before, rfl⟩ := List.getLast?_eq_some_iff.mp last
  rw [lastLine, List.rtakeWhile_concat_pos _ _ _ (by simp [inner]), List.getLast?_concat]

/-! ## Searching line by line -/

theorem eq_nil_of_prefix_cons (without : c ∉ line) (front : line <+: c :: t) : line = [] := by
  cases line with
  | nil => rfl
  | cons d line =>
    obtain ⟨rfl, -⟩ := List.cons_prefix_cons.mp front
    exact absurd List.mem_cons_self without

/-- What occurs in a text occurs on one side of every character that it has not in it. -/
theorem infix_append_cons_iff (without : c ∉ line) : line <:+: s ++ c :: t ↔ line <:+: s ∨ line <:+: t := by
  constructor
  · intro occurs
    rcases List.infix_append_iff.mp occurs with left | right | ⟨front, back, rfl, inLeft, inRight⟩
    · exact .inl left
    · rcases List.infix_cons_iff.mp right with front | right
      · rw [eq_nil_of_prefix_cons without front]
        exact .inl (List.nil_infix)
      · exact .inr right
    · have none : back = [] := eq_nil_of_prefix_cons (fun member => without (List.mem_append_right _ member)) inRight
      rw [none, List.append_nil]
      exact .inl inLeft.isInfix
  · rintro (left | right)
    · exact left.trans (List.prefix_append _ _).isInfix
    · exact right.trans ((List.suffix_cons c t).trans (List.suffix_append _ _)).isInfix

/-- What has no boundary in it occurs in a text just where it occurs on a line of it. -/
theorem infix_linesFrom_iff {read part : List Char} (some : part ≠ []) (inner : OneLine part) :
    (∃ line ∈ linesFrom read s, part <:+: line) ↔ part <:+: read.reverse ++ s := by
  have without {c : Char} (boundary : isBoundary c = true) : c ∉ part := fun member => by
    simp [inner c member] at boundary
  have nowhere : ¬ part <:+: [] := fun occurs => some (List.infix_nil.mp occurs)
  fun_induction linesFrom read s with
  | case1 read none => simp [List.isEmpty_iff.mp none, nowhere]
  | case2 read => simp
  | case3 read rest ih =>
    have twice : part <:+: '\n' :: rest ↔ part <:+: rest :=
      (infix_append_cons_iff (s := []) (without rfl)).trans (or_iff_right nowhere)
    rw [infix_append_cons_iff (without rfl), twice, List.exists_mem_cons_iff]
    exact or_congr_right ih
  | case4 read c rest _ boundary ih =>
    rw [infix_append_cons_iff (without boundary), List.exists_mem_cons_iff]
    exact or_congr_right ih
  | case5 read c rest _ _ ih => simpa using ih

theorem infix_joined_iff {part : List Char} {pieces : List (List Char)} (some : part ≠ []) (without : c ∉ part) :
    part <:+: [c].intercalate pieces ↔ ∃ piece ∈ pieces, part <:+: piece := by
  induction pieces with
  | nil => simpa using some
  | cons first rest ih =>
    cases rest with
    | nil => simp
    | cons second rest =>
      rw [List.intercalate_cons_cons, List.append_assoc, List.singleton_append, infix_append_cons_iff without, ih]
      simp

/-! ## Stripping -/

theorem stripBack_subset (s : List Char) : stripBack s ⊆ s := fun _ member =>
  List.mem_reverse.mp ((List.dropWhile_suffix isBlank).subset (List.mem_reverse.mp member))

theorem strip_subset (s : List Char) : strip s ⊆ s :=
  List.Subset.trans (stripBack_subset _) (List.dropWhile_suffix isBlank).subset

theorem strip_append (blank : AllBlank s) : strip (s ++ t) = strip t := by
  rw [strip, strip, stripFront, stripFront, List.dropWhile_append_of_pos blank]

theorem strip_append_right (blank : AllBlank t) : strip (s ++ t) = strip s := by
  have back {s : List Char} : stripBack (s ++ t) = stripBack s := by
    have reversed : ∀ c ∈ t.reverse, isBlank c = true := fun c member => blank c (List.mem_reverse.mp member)
    rw [stripBack, stripBack, dropEndWhile, dropEndWhile, List.reverse_append, List.dropWhile_append_of_pos reversed]
  rw [strip, stripFront, List.dropWhile_append]
  split
  · rename_i nothing
    rw [List.dropWhile_eq_nil_iff.mpr blank, strip, stripFront, List.isEmpty_iff.mp nothing]
  · exact back

theorem dropEndWhile_eq_self {α : Type} {p : α → Bool} {xs : List α} (last : ∀ x ∈ xs.getLast?, p x = false) :
    dropEndWhile p xs = xs := by
  unfold dropEndWhile
  cases back : xs.reverse with
  | nil => simp [List.reverse_eq_nil_iff.mp back]
  | cons x before =>
    have kept : p x = false := by
      apply last
      rw [List.getLast?_eq_head?_reverse, back]
      rfl
    rw [List.dropWhile_cons_of_neg (by simp [kept]), ← back, List.reverse_reverse]

theorem strip_eq_nil_iff : strip s = [] ↔ AllBlank s := by
  have front : s = s.takeWhile isBlank ++ stripFront s := (List.takeWhile_append_dropWhile).symm
  constructor
  · intro nothing
    have reversed : (stripFront s).reverse.dropWhile isBlank = [] := List.reverse_eq_nil_iff.mp nothing
    rw [List.dropWhile_eq_nil_iff] at reversed
    intro c member
    rw [front] at member
    rcases List.mem_append.mp member with member | member
    · exact List.mem_takeWhile_imp member
    · exact reversed c (List.mem_reverse.mpr member)
  · intro blank
    have nothing : stripFront s = [] := List.dropWhile_eq_nil_iff.mpr blank
    rw [strip, nothing]
    rfl

/-- What is left of a stripped text ends visibly. -/
theorem getLast?_strip : ∀ c ∈ (strip s).getLast?, isBlank c = false := by
  intro c last
  rw [strip, stripBack, dropEndWhile, List.getLast?_reverse] at last
  have := List.head?_dropWhile_not isBlank (stripFront s).reverse
  rw [last] at this
  simpa using this

end PltKeeper.Text
