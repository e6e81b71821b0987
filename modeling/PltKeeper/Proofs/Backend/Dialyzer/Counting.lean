import PltKeeper.Proofs.Backend.Dialyzer.Transcript
import PltKeeper.Proofs.Traversal

/-! How many warnings there are. Whatever a process prints, a line in which something stands gives a warning of its own
or continues the one before, and the first such line gives one though it may be indented; lines are joined to a warning
and never taken apart, so that each warning is reported on one line. The one thing that keeps a text from being read
is a position whose numbers are longer than numbers may be. -/
namespace PltKeeper.Dialyzer

open Text

variable {raw : List Char} {ls starts : List (List Char)} {read read' found : List Diagnostic} {d : Diagnostic}
  {output : String}

/-! ## Numbers in a warning -/

/-- The numbers of a position are as long as whole numbers may be. -/
def Position.Measured (p : Position) : Prop :=
  p.line.length ≤ digitLimit ∧ ∀ column ∈ p.column, column.length ≤ digitLimit

instance (p : Position) : Decidable p.Measured := inferInstanceAs (Decidable (_ ∧ _))

/-- The numbers of a position are digits, one at least. -/
def Position.Numbered (p : Position) : Prop :=
  (p.line ≠ [] ∧ ∀ c ∈ p.line, isDigit c = true) ∧
    ∀ column ∈ p.column, column ≠ [] ∧ ∀ c ∈ column, isDigit c = true

theorem numbered_of_position? {s : List Char} {p : Position} (found : position? s = some p) : p.Numbered := by
  have digits (s : List Char) : ∀ c ∈ (s.span isDigit).1, isDigit c = true := by
    rw [List.span_eq_takeWhile_dropWhile]
    exact fun c => List.mem_takeWhile_imp
  unfold position? at found
  split at found
  rename_i line rest split
  have lineDigits : ∀ c ∈ line, isDigit c = true := by simpa only [split] using digits s
  split at found
  · exact nomatch found
  rename_i some
  have line : line ≠ [] ∧ ∀ c ∈ line, isDigit c = true := ⟨fun none => some (by rw [none]; rfl), lineDigits⟩
  split at found
  · cases found
    exact ⟨line, nofun⟩
  split at found
  · rename_i rest _
    split at found
    rename_i column after split
    have columnDigits : ∀ c ∈ column, isDigit c = true := by simpa only [split] using digits rest
    split at found
    · exact nomatch found
    · rename_i some
      obtain ⟨message, -, rfl⟩ := Option.map_eq_some_iff.mp found
      refine ⟨line, ?_⟩
      rintro _ ⟨⟩
      exact ⟨fun none => some (by rw [none]; rfl), columnDigits⟩
  · exact nomatch found

theorem numbered_of_splitWarning {before s file : List Char} {p : Position}
    (found : splitWarning before s = some (file, p)) : p.Numbered := by
  induction s generalizing before with
  | nil => cases found
  | cons c rest ih =>
    rw [splitWarning] at found
    split at found
    · rename_i here
      cases found
      split at here
      · exact numbered_of_position? here
      · cases here
    · exact ih found

theorem number_ok_iff {s : List Char} (some : s ≠ []) (digits : ∀ c ∈ s, isDigit c = true) :
    (∃ n, number s = .ok n) ↔ s.length ≤ digitLimit := by
  rw [number, readInt_of_digits some digits]
  split
  · refine iff_of_false ?_ (by omega)
    rintro ⟨n, ⟨⟩⟩
  · exact iff_of_true ⟨_, rfl⟩ (by omega)

/-- A line is read as a warning unless it has a position with a number that is too long. -/
theorem warningOf_ok_iff :
    (∃ d, warningOf raw = .ok d) ↔ ∀ split ∈ splitWarning [] (stripBack raw), split.2.Measured := by
  unfold warningOf
  cases found : splitWarning [] (stripBack raw) with
  | none => exact iff_of_true ⟨_, rfl⟩ nofun
  | some split =>
    obtain ⟨file, p⟩ := split
    obtain ⟨⟨some, digits⟩, columns⟩ := numbered_of_splitWarning found
    have columnRead : (∃ n, p.column.mapM number = .ok n) ↔
        ∀ column, p.column = .some column → column.length ≤ digitLimit := by
      cases column : p.column with
      | none => exact iff_of_true ⟨none, rfl⟩ nofun
      | some digits =>
        obtain ⟨some, all⟩ := columns digits column
        simp only [Option.mapM_some, Option.some.injEq, forall_eq', ← number_ok_iff some all]
        cases number digits <;> simp [Functor.map, Except.map]
    simp only [Option.mem_def, Option.some.injEq, forall_eq', Position.Measured, ← number_ok_iff some digits,
      ← columnRead]
    cases number p.line <;> cases p.column.mapM number <;> simp [bind, Except.bind, pure, Except.pure]

/-! ## The lines that start a warning -/

/-- The lines of a text in which something stands. -/
def said (output : String) : List (List Char) := (lines output.toList).filter fun raw => ¬ AllBlank raw

/-- Those of them that continue no warning: the first one, and of the others those that are not indented. -/
def openings : List (List Char) → List (List Char)
  | [] => []
  | first :: rest => first :: rest.filter fun raw => !isIndented raw

theorem length_openings (ls : List (List Char)) : (openings ls).length =
    (ls.countP fun raw => !isIndented raw) + if ls.head?.any isIndented then 1 else 0 := by
  cases ls with
  | nil => rfl
  | cons first rest => cases indented : isIndented first <;> simp [openings, List.countP_eq_length_filter, indented]

theorem foldlM_visible : (ls.filter fun raw => ¬ AllBlank raw).foldlM addLine read = ls.foldlM addLine read := by
  induction ls generalizing read with
  | nil => rfl
  | cons raw rest ih =>
    by_cases blank : AllBlank raw
    · rw [List.filter_cons_of_neg (by simpa using blank), List.foldlM_cons, addLine_blank blank]
      exact ih
    · rw [List.filter_cons_of_pos (by simpa using blank), List.foldlM_cons, List.foldlM_cons]
      exact congrArg _ (funext fun _ => ih)

/-- After so many warnings, lines are read just where each of those that start a warning gives one, and then there is
one more for each. -/
structure Adds (read : List Diagnostic) (ls starts : List (List Char)) : Prop where
  reads : (∃ read', ls.foldlM addLine read = .ok read') ↔ ∀ raw ∈ starts, ∃ d, warningOf raw = .ok d
  counts : ∀ read', ls.foldlM addLine read = .ok read' → read'.length = read.length + starts.length

theorem adds_nil : Adds read [] [] where
  reads := iff_of_true ⟨read, rfl⟩ nofun
  counts := by
    rintro _ ⟨⟩
    rfl

theorem adds_opening (visible : ¬ AllBlank raw) (opens : isIndented raw = true → read = [])
    (later : ∀ d, Adds (d :: read) ls starts) : Adds read (raw :: ls) (raw :: starts) := by
  have step : (raw :: ls).foldlM addLine read = (warningOf raw).bind fun d => ls.foldlM addLine (d :: read) := by
    rw [List.foldlM_cons, addLine_opening visible opens]
    cases warningOf raw <;> rfl
  cases made : warningOf raw with
  | error e =>
    constructor
    · rw [step, made]
      refine iff_of_false (fun ⟨_, ran⟩ => nomatch ran) fun all => ?_
      obtain ⟨d, other⟩ := all raw List.mem_cons_self
      exact nomatch made.symm.trans other
    · rw [step, made]
      exact fun _ ran => nomatch ran
  | ok d =>
    obtain ⟨reads, counts⟩ := later d
    constructor
    · rw [step, made, List.forall_mem_cons]
      exact ⟨fun ran => ⟨⟨d, made⟩, reads.mp ran⟩, fun all => reads.mpr all.2⟩
    · rw [step, made]
      intro read' ran
      rw [counts read' ran, List.length_cons, List.length_cons]
      omega

/-- Once there is a warning to continue, each line that is not indented starts another. -/
theorem adds_later (visible : ∀ raw ∈ ls, ¬ AllBlank raw) (begun : read ≠ []) :
    Adds read ls (ls.filter fun raw => !isIndented raw) := by
  induction ls generalizing read with
  | nil => exact adds_nil
  | cons raw rest ih =>
    obtain ⟨here, visible⟩ := List.forall_mem_cons.mp visible
    cases indented : isIndented raw with
    | true =>
      obtain ⟨d, earlier, rfl⟩ := List.exists_cons_of_ne_nil begun
      obtain ⟨reads, counts⟩ := ih visible (List.cons_ne_nil (continued d raw) earlier)
      have step : (raw :: rest).foldlM addLine (d :: earlier) =
          rest.foldlM addLine (continued d raw :: earlier) := by
        rw [List.foldlM_cons, addLine_indented here indented]
        rfl
      rw [List.filter_cons_of_neg (by simp [indented])]
      exact ⟨step ▸ reads, step ▸ counts⟩
    | false =>
      rw [List.filter_cons_of_pos (by simp [indented])]
      exact adds_opening here (by simp [indented]) fun d => ih visible (List.cons_ne_nil d read)

/-- The first line starts a warning in any case. -/
theorem adds_openings (visible : ∀ raw ∈ ls, ¬ AllBlank raw) : Adds [] ls (openings ls) := by
  cases ls with
  | nil => exact adds_nil
  | cons first rest =>
    obtain ⟨here, visible⟩ := List.forall_mem_cons.mp visible
    exact adds_opening here (fun _ => rfl) fun d => adds_later visible (List.cons_ne_nil d [])

theorem warnings_eq_ok_iff :
    warnings output = .ok found ↔ ∃ read', (said output).foldlM addLine [] = .ok read' ∧ read'.reverse = found := by
  rw [said, foldlM_visible, warnings, bind_ok_iff]
  simp only [pure, Except.pure, Except.ok.injEq]

theorem not_allBlank_of_said (member : raw ∈ said output) : ¬ AllBlank raw := by
  simpa using (List.mem_filter.mp member).2

/-- A text is read just where each line that starts a warning is, -/
theorem warnings_ok_iff : (∃ found, warnings output = .ok found) ↔
    ∀ raw ∈ openings (said output), ∀ split ∈ splitWarning [] (stripBack raw), split.2.Measured := by
  simp only [← warningOf_ok_iff, ← (adds_openings fun _ => not_allBlank_of_said).reads, warnings_eq_ok_iff]
  exact ⟨fun ⟨_, read', ran, _⟩ => ⟨read', ran⟩, fun ⟨read', ran⟩ => ⟨_, read', ran, rfl⟩⟩

/-- and then as one warning for each of these lines. -/
theorem length_warnings (parsed : warnings output = .ok found) : found.length = (openings (said output)).length := by
  obtain ⟨read', ran, rfl⟩ := warnings_eq_ok_iff.mp parsed
  rw [List.length_reverse, (adds_openings fun _ => not_allBlank_of_said).counts read' ran]
  exact Nat.zero_add _

/-- The numbers of every position in a text are as long as numbers may be. -/
def Measured (output : String) : Prop :=
  ∀ raw ∈ lines output.toList, ∀ split ∈ splitWarning [] (stripBack raw), split.2.Measured

instance (output : String) : Decidable (Measured output) :=
  inferInstanceAs (Decidable (∀ raw ∈ _, ∀ split ∈ splitWarning [] (stripBack raw), split.2.Measured))

theorem subset_of_position? {s : List Char} {p : Position} (found : position? s = some p) : p.message ⊆ s := by
  have after (s : List Char) : (s.span isDigit).2 ⊆ s := by
    rw [List.span_eq_takeWhile_dropWhile]
    exact (List.dropWhile_suffix isDigit).subset
  have colon {s message : List Char} (found : afterColon? s = some message) : message ⊆ s := by
    unfold afterColon? at found
    split at found
    · cases found
      exact fun _ member => List.mem_cons_of_mem _ (List.mem_cons_of_mem _ member)
    · exact nomatch found
  unfold position? at found
  split at found
  rename_i line rest split
  have afterLine : rest ⊆ s := by simpa only [split] using after s
  split at found
  · exact nomatch found
  split at found
  · rename_i message here
    cases found
    exact List.Subset.trans (colon here) afterLine
  split at found
  · rename_i rest _
    split at found
    rename_i column later split
    have afterColumn : later ⊆ rest := by simpa only [split] using after rest
    split at found
    · exact nomatch found
    · obtain ⟨message, here, rfl⟩ := Option.map_eq_some_iff.mp found
      have afterColon : rest ⊆ s := List.subset_of_cons_subset afterLine
      exact List.Subset.trans (colon here) (List.Subset.trans afterColumn afterColon)
  · exact nomatch found

theorem subset_of_splitWarning {before s file : List Char} {p : Position}
    (found : splitWarning before s = some (file, p)) : file ⊆ before ++ s ∧ p.message ⊆ s := by
  induction s generalizing before with
  | nil => cases found
  | cons c rest ih =>
    rw [splitWarning] at found
    split at found
    · rename_i here
      cases found
      split at here
      · refine ⟨fun _ member => List.mem_append_left _ (List.mem_reverse.mp member), ?_⟩
        exact List.Subset.trans (subset_of_position? here) (List.subset_cons_self c rest)
      · cases here
    · obtain ⟨file, message⟩ := ih found
      refine ⟨fun d member => ?_, List.Subset.trans message (List.subset_cons_self c rest)⟩
      simpa [or_left_comm] using file member

/-- The parts of a line stand on one line. -/
theorem flat_warningOf (inner : OneLine raw) (made : warningOf raw = .ok d) : d.Flat := by
  unfold warningOf at made
  cases found : splitWarning [] (stripBack raw) with
  | none =>
    simp only [found, pure, Except.pure, Except.ok.injEq] at made
    subst made
    exact ⟨oneLine_nil, by simpa using inner.mono (strip_subset raw)⟩
  | some split =>
    obtain ⟨file, p⟩ := split
    obtain ⟨inFile, inMessage⟩ := subset_of_splitWarning found
    simp only [found] at made
    obtain ⟨line, -, made⟩ := bind_ok_iff.mp made
    obtain ⟨column, -, made⟩ := bind_ok_iff.mp made
    cases made
    have inner : OneLine (stripBack raw) := inner.mono (stripBack_subset raw)
    exact ⟨by simpa using inner.mono inFile, by simpa using inner.mono inMessage⟩

theorem flat_continued (flat : d.Flat) (inner : OneLine raw) : (continued d raw).Flat := by
  refine ⟨flat.file, ?_⟩
  simp only [continued, String.toList_append, String.toList_ofList, oneLine_append]
  exact ⟨⟨flat.message, by decide⟩, inner.mono (strip_subset raw)⟩

theorem flat_addLine (inner : OneLine raw) (flat : ∀ d ∈ read, d.Flat) (added : addLine read raw = .ok read') :
    ∀ d ∈ read', d.Flat := by
  by_cases blank : AllBlank raw
  · cases (addLine_blank blank).symm.trans added
    exact flat
  by_cases opens : isIndented raw = true → read = []
  · rw [addLine_opening blank opens] at added
    cases made : warningOf raw with
    | error e => simp [made, Except.map] at added
    | ok d =>
      rw [made] at added
      cases added
      exact List.forall_mem_cons.mpr ⟨flat_warningOf inner made, flat⟩
  · obtain ⟨indented, begun⟩ := Classical.not_imp.mp opens
    obtain ⟨last, earlier, rfl⟩ := List.exists_cons_of_ne_nil begun
    cases (addLine_indented blank indented).symm.trans added
    obtain ⟨here, flat⟩ := List.forall_mem_cons.mp flat
    exact List.forall_mem_cons.mpr ⟨flat_continued here inner, flat⟩

/-- Each warning in a text is reported on one line. -/
theorem oneLine_of_warnings (parsed : warnings output = .ok found) (member : d ∈ found) : OneLine d.reported.toList := by
  obtain ⟨read', ran, rfl⟩ := warnings_eq_ok_iff.mp parsed
  let AllFlat (read : List Diagnostic) : Prop := ∀ d ∈ read, d.Flat
  have flat : AllFlat read' := by
    have start : AllFlat [] := nofun
    refine foldlM_keeps (fun read raw inSaid read' flat added => ?_) start ran
    exact flat_addLine (oneLine_of_mem_lines (List.mem_filter.mp inSaid).1) flat added
  exact oneLine_reported (flat d (List.mem_reverse.mp member))

/-! ## The whole of it -/

/-- How many warnings a text is read as, if it is read at all. -/
structure Counted (output : String) : Prop where
  /-- It is read just where no line that starts a warning has a position with a number that is too long. -/
  reads : (∃ found, warnings output = .ok found) ↔
    ∀ raw ∈ openings (said output), ∀ split ∈ splitWarning [] (stripBack raw), split.2.Measured
  /-- There is a warning for each line that is neither blank nor indented, and one for the first line if it is. -/
  counts : ∀ found, warnings output = .ok found → found.length =
    ((said output).countP fun raw => !isIndented raw) + if (said output).head?.any isIndented then 1 else 0
  /-- Each is reported on one line. -/
  lines : ∀ found, warnings output = .ok found → ∀ d ∈ found, OneLine d.reported.toList

theorem counted (output : String) : Counted output where
  reads := warnings_ok_iff
  counts _ parsed := (length_warnings parsed).trans (length_openings _)
  lines _ parsed _ := oneLine_of_warnings parsed

/-- One digit more than numbers may have. -/
def overlongDigits : List Char := List.replicate (digitLimit + 1) '1'

/-- A line with a position that has such a number. -/
def overlong : List Char := 'a' :: ':' :: (overlongDigits ++ ": x".toList)

theorem eq_of_mem_overlongDigits {c : Char} (member : c ∈ overlongDigits) : c = '1' := List.eq_of_mem_replicate member

theorem said_overlong : said (String.ofList (overlong ++ ['\n'])) = [overlong] := by
  have inner : OneLine overlong := by
    have one : OneLine overlongDigits := fun c member => eq_of_mem_overlongDigits member ▸ by decide
    simp only [overlong, oneLine_cons, oneLine_append]
    exact ⟨by decide, by decide, one, by decide⟩
  have cut : lines (overlong ++ ['\n']) = [overlong] := lines_append inner
  rw [said, String.toList_ofList, cut]
  rfl

theorem splitWarning_overlong :
    splitWarning [] (stripBack overlong) = some (['a'], ⟨overlongDigits, none, ['x']⟩) := by
  have back : stripBack overlong = overlong := by
    refine dropEndWhile_eq_self fun c last => ?_
    have last : c ∈ (('a' :: ':' :: overlongDigits) ++ ": x".toList).getLast? := last
    rw [List.getLast?_append_of_ne_nil _ (by decide)] at last
    cases last
    decide
  have found : position? (overlongDigits ++ ": x".toList) = some ⟨overlongDigits, none, ['x']⟩ := by
    have each : ∀ c ∈ overlongDigits, isDigit c = true := fun c member => eq_of_mem_overlongDigits member ▸ by decide
    have span : (overlongDigits ++ ": x".toList).span isDigit = (overlongDigits, ": x".toList) := span_digits each
    have some : overlongDigits.isEmpty = false := rfl
    simp only [position?, span, some]
    rfl
  have free : ∀ front c rest, ['a'] = front ++ ':' :: c :: rest → isDigit c = false := by
    intro front c rest split
    have lengths := congrArg List.length split
    simp only [List.length_cons, List.length_append, List.length_nil] at lengths
    omega
  have whole : overlong = ['a'] ++ ':' :: (overlongDigits ++ ": x".toList) := rfl
  rw [back, whole]
  exact splitWarning_append found free

/-- The line is not kept as it is, as one without a position would be. -/
theorem overlong_unread : ¬ ∀ output, ∃ found, warnings output = .ok found := by
  intro claim
  have opens : overlong ∈ openings (said (String.ofList (overlong ++ ['\n']))) := by
    rw [said_overlong]
    exact List.mem_cons_self
  have measured := warnings_ok_iff.mp (claim _) overlong opens _ splitWarning_overlong
  have short : overlongDigits.length ≤ digitLimit := measured.1
  rw [overlongDigits, List.length_replicate] at short
  omega

end PltKeeper.Dialyzer
