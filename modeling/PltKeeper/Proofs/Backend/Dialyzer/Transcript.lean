import PltKeeper.Backend.Dialyzer.Output
import PltKeeper.Proofs.Text.Numeral
import Mathlib.Data.List.Basic
import Mathlib.Data.List.TakeDrop

/-! Warnings survive the text that dialyzer prints of them. A warning stands on a line of its own, and
indented lines may continue its message; blank lines mean nothing. Where a file's name neither looks
indented nor has a colon with a digit after it, the first such colon on the line is the one that ends the
name, whatever the message says, and what is read is just what was printed. -/
namespace PltKeeper

open Text

namespace Diagnostic

/-- A number that can be read back: natural, and with no more decimal digits than are accepted. -/
def ShortNatural (n : Int) : Prop := ∃ m : Nat, n = m ∧ (Nat.toDigits 10 m).length ≤ digitLimit

/-- A warning that can be read back from its printed form. -/
structure Legible (d : Diagnostic) : Prop where
  /-- The file's name stands on one line, -/
  fileLine : OneLine d.file.toList
  /-- does not look indented, -/
  fileFront : ∀ c ∈ d.file.toList.head?, isBlank c = false
  /-- and no colon in it has a decimal digit, of any script, after it. -/
  fileFree : ∀ before c after, d.file.toList = before ++ ':' :: c :: after → isDigit c = false
  line : ShortNatural d.line
  column : ∀ column ∈ d.column, ShortNatural column
  /-- The message is there, -/
  messageSome : d.message ≠ ""
  /-- stands on one line, -/
  messageLine : OneLine d.message.toList
  /-- and ends visibly. -/
  messageBack : ∀ c ∈ d.message.toList.getLast?, isBlank c = false
  /-- No category is printed. -/
  tag : d.tag = none

/-- A warning whose file and message stand on one line each. -/
structure Flat (d : Diagnostic) : Prop where
  file : OneLine d.file.toList
  message : OneLine d.message.toList

theorem Legible.flat {d : Diagnostic} (legible : d.Legible) : d.Flat := ⟨legible.fileLine, legible.messageLine⟩

end Diagnostic

namespace Dialyzer

/-! ## What is printed -/

/-- A line that continues a warning, with the blank lines before it. -/
structure Continuation where
  gap : List String
  indent : String
  text : String

/-- A warning with the blank lines before it and the lines that continue it. -/
structure Block where
  gap : List String
  warning : Diagnostic
  more : List Continuation

/-- Lines as they are printed, each with a line feed at its end. -/
def printLines (lines : List String) : List Char := lines.flatMap fun line => line.toList ++ ['\n']

def Continuation.print (c : Continuation) : List Char := printLines (c.gap ++ [c.indent ++ c.text])

def Block.print (b : Block) : List Char := printLines (b.gap ++ [b.warning.format]) ++ b.more.flatMap (·.print)

/-- Blocks as they are printed, with blank lines at the end. -/
def transcript (blocks : List Block) (gap : List String) : String :=
  String.ofList (blocks.flatMap (·.print) ++ printLines gap)

/-- A message and all that continues it, a space before each part. -/
def extended (message : String) (more : List Continuation) : String :=
  more.foldl (fun message c => message ++ " " ++ String.ofList (strip c.text.toList)) message

/-- The warning that a block amounts to. -/
def Block.merged (b : Block) : Diagnostic :=
  { b.warning with message := extended b.warning.message b.more }

/-- Lines of white space. -/
def BlankLines (lines : List String) : Prop := ∀ line ∈ lines, AllBlank line.toList

instance (lines : List String) : Decidable (BlankLines lines) := List.decidableBAll _ _

/-- A line that continues a warning, and can be told from one that does not. -/
structure Continuation.Legible (c : Continuation) : Prop where
  gap : BlankLines c.gap
  indented : c.indent ≠ ""
  indentBlank : AllBlank c.indent.toList
  indentLine : OneLine c.indent.toList
  textLine : OneLine c.text.toList
  textVisible : ¬ AllBlank c.text.toList

/-- A block that can be read back. -/
structure Block.Legible (b : Block) : Prop where
  gap : BlankLines b.gap
  warning : b.warning.Legible
  more : ∀ c ∈ b.more, c.Legible

variable {file rest raw : List Char} {p : Position} {read read' : List Diagnostic} {d : Diagnostic}

/-! ## Taking a line apart -/

theorem span_digits {digits : List Char} (all : ∀ c ∈ digits, isDigit c = true) :
    (digits ++ ':' :: rest).span isDigit = (digits, ':' :: rest) := by
  have colon : isDigit ':' = false := by decide
  rw [List.span_eq_takeWhile_dropWhile, List.takeWhile_append_of_pos all, List.dropWhile_append_of_pos all]
  simp [colon]

theorem position?_of_not_digit {c : Char} (other : isDigit c = false) : position? (c :: rest) = none := by
  simp [position?, List.span_eq_takeWhile_dropWhile, other]

/-- The first colon that a position follows ends the file's name. -/
theorem splitWarning_append {before : List Char} (found : position? rest = some p)
    (free : ∀ front c back, file = front ++ ':' :: c :: back → isDigit c = false) :
    splitWarning before (file ++ ':' :: rest) = some (before.reverse ++ file, p) := by
  induction file generalizing before with
  | nil => simp [splitWarning, found]
  | cons c file ih =>
    have later : splitWarning (c :: before) (file ++ ':' :: rest) = some ((c :: before).reverse ++ file, p) :=
      ih fun front d back split => free (c :: front) d back (by rw [split, List.cons_append])
    have passed : (if c = ':' then position? (file ++ ':' :: rest) else none) = none := by
      split
      · rename_i colon
        subst colon
        cases file with
        | nil => exact position?_of_not_digit (by decide)
        | cons d file => exact position?_of_not_digit (free [] d file rfl)
      · rfl
    rw [List.cons_append, splitWarning, passed]
    simpa using later

theorem position?_without_column {n : Nat} {message : List Char} :
    position? (Nat.toDigits 10 n ++ ':' :: ' ' :: message) = some ⟨Nat.toDigits 10 n, none, message⟩ := by
  have line : (Nat.toDigits 10 n).isEmpty = false := List.isEmpty_eq_false_iff.mpr Nat.toDigits_ne_nil
  unfold position?
  simp only [span_digits fun c => isDigit_of_mem_toDigits, line]
  rfl

theorem position?_with_column {n m : Nat} {message : List Char} :
    position? (Nat.toDigits 10 n ++ ':' :: (Nat.toDigits 10 m ++ ':' :: ' ' :: message)) =
      some ⟨Nat.toDigits 10 n, some (Nat.toDigits 10 m), message⟩ := by
  have line : (Nat.toDigits 10 n).isEmpty = false := List.isEmpty_eq_false_iff.mpr Nat.toDigits_ne_nil
  have column : (Nat.toDigits 10 m).isEmpty = false := List.isEmpty_eq_false_iff.mpr Nat.toDigits_ne_nil
  have notSpace : afterColon? (':' :: (Nat.toDigits 10 m ++ ':' :: ' ' :: message)) = none := by
    obtain ⟨c, digits, split⟩ := List.exists_cons_of_ne_nil (Nat.toDigits_ne_nil (n := m) (b := 10))
    have digit : isDigit c = true := isDigit_of_mem_toDigits (n := m) (by rw [split]; exact List.mem_cons_self)
    rw [split, List.cons_append]
    unfold afterColon?
    split
    · rename_i same
      obtain ⟨rfl, -⟩ := List.cons.inj (List.cons.inj same).2
      exact nomatch digit
    · rfl
  unfold position?
  simp only [span_digits fun c => isDigit_of_mem_toDigits, line, column, notSpace]
  rfl

/-! ## Reading a line -/

theorem number_toDigits {n : Nat} (short : (Nat.toDigits 10 n).length ≤ digitLimit) :
    number (Nat.toDigits 10 n) = .ok n := by
  rw [number, readInt_toDigits short]
  rfl

/-- A warning without a column, as it is printed. -/
theorem toList_format {file message : String} {n : Nat} {tag : Option String} :
    (Diagnostic.format ⟨file, n, message, none, tag⟩).toList =
      file.toList ++ ':' :: (Nat.toDigits 10 n ++ ':' :: ' ' :: message.toList) := by
  simp [Diagnostic.format, Diagnostic.position, ← toList_toString]

/-- A warning with a column, as it is printed. -/
theorem toList_format_column {file message : String} {n m : Nat} {tag : Option String} :
    (Diagnostic.format ⟨file, n, message, some m, tag⟩).toList =
      file.toList ++ ':' :: (Nat.toDigits 10 n ++ ':' :: (Nat.toDigits 10 m ++ ':' :: ' ' :: message.toList)) := by
  simp [Diagnostic.format, Diagnostic.position, ← toList_toString]

/-- What is printed of a warning ends visibly. -/
theorem stripBack_format (legible : d.Legible) : stripBack d.format.toList = d.format.toList := by
  apply dropEndWhile_eq_self
  intro c last
  have some : d.message.toList ≠ [] := fun none => legible.messageSome (String.toList_eq_nil_iff.mp none)
  apply legible.messageBack c
  rwa [Diagnostic.format, String.toList_append, List.getLast?_append,
    Option.or_of_isSome (List.getLast?_isSome.mpr some)] at last

/-- What is printed of a warning is read as that warning. -/
theorem warningOf_format (legible : d.Legible) : warningOf d.format.toList = .ok d := by
  have back := stripBack_format legible
  obtain ⟨file, line, message, column, tag⟩ := d
  obtain ⟨n, rfl, short⟩ := legible.line
  obtain rfl := legible.tag
  unfold warningOf
  rw [back]
  cases column with
  | none =>
    rw [toList_format, splitWarning_append position?_without_column legible.fileFree]
    simp [number_toDigits short, bind, Except.bind, pure, Except.pure]
  | some column =>
    obtain ⟨m, rfl, shortColumn⟩ := legible.column column rfl
    rw [toList_format_column, splitWarning_append position?_with_column legible.fileFree]
    simp [number_toDigits short, number_toDigits shortColumn, bind, Except.bind, pure, Except.pure]

/-- The decimal digits of a number stand on one line. -/
theorem oneLine_toDigits (n : Nat) : OneLine (Nat.toDigits 10 n) := fun _ member =>
  isBoundary_of_visible (isBlank_of_ascii_digit (Nat.isDigit_of_mem_toDigits (by decide) (by decide) member))

theorem oneLine_toString (n : Int) : OneLine (toString n).toList := by
  cases n with
  | ofNat n => exact toList_toString n ▸ oneLine_toDigits n
  | negSucc n => exact toList_toString_negSucc n ▸ oneLine_cons.mpr ⟨by decide, oneLine_toDigits (n + 1)⟩

/-- A warning is printed on one line. -/
theorem oneLine_format (flat : d.Flat) : OneLine d.format.toList := by
  have colon : OneLine ":".toList := by decide
  have space : OneLine ": ".toList := by decide
  rw [Diagnostic.format, Diagnostic.position]
  cases d.column with
  | none =>
    simp only [String.toList_append, oneLine_append]
    exact ⟨⟨⟨⟨⟨flat.file, colon⟩, oneLine_toString d.line⟩, oneLine_nil⟩, space⟩, flat.message⟩
  | some column =>
    simp only [String.toList_append, oneLine_append]
    exact ⟨⟨⟨⟨⟨flat.file, colon⟩, oneLine_toString d.line⟩, colon, oneLine_toString column⟩, space⟩, flat.message⟩

/-- It is reported on one line, too, which is a part of the line that is printed. -/
theorem oneLine_reported (flat : d.Flat) : OneLine d.reported.toList := by
  have kept : OneLine (Diagnostic.dropLineFeeds d.format.toList) := (oneLine_format flat).mono fun _ member =>
    List.mem_reverse.mp ((List.dropWhile_suffix _).subset (List.mem_reverse.mp member))
  unfold Diagnostic.reported
  rw [String.toList_ofList]
  cases found : Diagnostic.unknownPosition.isPrefixOf? (Diagnostic.dropLineFeeds d.format.toList) with
  | none => exact kept
  | some rest =>
    rw [← List.isPrefixOf?_eq_some_iff_append_eq.mp found, oneLine_append] at kept
    exact kept.2

/-- The line of a warning starts visibly, with the file's name or with the colon after it. -/
theorem format_front (legible : d.Legible) :
    ∃ c rest, d.format.toList = c :: rest ∧ isBlank c = false := by
  have front : ∃ rest, d.format.toList = d.file.toList ++ ':' :: rest := by
    simp [Diagnostic.format, Diagnostic.position]
  obtain ⟨rest, printed⟩ := front
  cases file : d.file.toList with
  | nil => exact ⟨':', rest, by rw [printed, file]; rfl, by decide⟩
  | cons c name =>
    have visible := legible.fileFront c (by simp [file])
    exact ⟨c, name ++ ':' :: rest, by rw [printed, file]; rfl, visible⟩

/-! ## Adding a line -/

/-- Blank lines add nothing. -/
theorem addLine_blank (blank : AllBlank raw) : addLine read raw = .ok read := by
  unfold addLine
  rw [strip_eq_nil_iff.mpr blank]
  rfl

/-- An indented line continues the last warning, if there is one, -/
theorem addLine_indented (visible : ¬ AllBlank raw) (indented : isIndented raw = true) :
    addLine (d :: read) raw = .ok (continued d raw :: read) := by
  unfold addLine
  rw [if_neg (by simpa [strip_eq_nil_iff] using visible), indented]

/-- and any other line gives a warning of its own. -/
theorem addLine_opening (visible : ¬ AllBlank raw) (opens : isIndented raw = true → read = []) :
    addLine read raw = (warningOf raw).map (· :: read) := by
  unfold addLine
  rw [if_neg (by simpa [strip_eq_nil_iff] using visible)]
  cases indented : isIndented raw with
  | false => cases warningOf raw <;> rfl
  | true =>
    rw [opens indented]
    cases warningOf raw <;> rfl

/-- The line of a warning adds that warning. -/
theorem addLine_format (legible : d.Legible) : addLine read d.format.toList = .ok (d :: read) := by
  obtain ⟨c, rest, printed, visible⟩ := format_front legible
  have seen : ¬ AllBlank d.format.toList := by
    rw [printed, allBlank_cons]
    simp [visible]
  have notIndented : isIndented d.format.toList = false := by
    rw [printed]
    exact visible
  rw [addLine_opening seen (by simp [notIndented]), warningOf_format legible]
  rfl

/-- The line of a continuation extends the last message. -/
theorem addLine_continuation {c : Continuation} (legible : c.Legible) :
    addLine (d :: read) (c.indent ++ c.text).toList =
      .ok ({ d with message := d.message ++ " " ++ String.ofList (strip c.text.toList) } :: read) := by
  have bare : strip (c.indent ++ c.text).toList = strip c.text.toList := by
    rw [String.toList_append, strip_append legible.indentBlank]
  have seen : ¬ AllBlank (c.indent ++ c.text).toList := by
    rw [← strip_eq_nil_iff, bare, strip_eq_nil_iff]
    exact legible.textVisible
  have indented : isIndented (c.indent ++ c.text).toList = true := by
    rw [String.toList_append]
    cases indent : c.indent.toList with
    | nil => exact absurd (String.toList_eq_nil_iff.mp indent) legible.indented
    | cons first rest => exact legible.indentBlank first (by simp [indent])
  rw [addLine_indented seen indented, continued, bare]

/-! ## Reading a transcript -/

/-- Warnings read from a text, after those that have been read. -/
def readFrom (read : List Diagnostic) (text : List Char) : Except Failure (List Diagnostic) :=
  (lines text).foldlM addLine read

theorem readFrom_line {line : String} (inner : OneLine line.toList)
    (added : addLine read line.toList = .ok read') :
    readFrom read (printLines [line] ++ rest) = readFrom read' rest := by
  have printed : printLines [line] ++ rest = line.toList ++ '\n' :: rest := by simp [printLines]
  rw [readFrom, printed, lines_append inner, List.foldlM_cons, added]
  rfl

/-- Lines of white space are passed over. -/
theorem readFrom_gap {gap : List String} (blank : BlankLines gap) :
    readFrom read (printLines gap ++ rest) = readFrom read rest := by
  induction gap with
  | nil => rfl
  | cons line gap ih =>
    obtain ⟨here, blank⟩ := List.forall_mem_cons.mp blank
    have printed : printLines (line :: gap) ++ rest = line.toList ++ '\n' :: (printLines gap ++ rest) := by
      simp [printLines]
    obtain ⟨blanks, each, cut⟩ :
        ∃ blanks, (∀ line ∈ blanks, AllBlank line) ∧
          lines (line.toList ++ '\n' :: (printLines gap ++ rest)) = blanks ++ lines (printLines gap ++ rest) :=
      lines_gap here
    have passed : blanks.foldlM addLine read = .ok read := by
      clear cut
      induction blanks with
      | nil => rfl
      | cons raw blanks again =>
        obtain ⟨first, each⟩ := List.forall_mem_cons.mp each
        rw [List.foldlM_cons, addLine_blank first]
        exact again each
    rw [readFrom, printed, cut, List.foldlM_append, passed]
    exact ih blank

theorem printLines_append (before after : List String) :
    printLines (before ++ after) = printLines before ++ printLines after := List.flatMap_append

/-- The lines that continue a warning extend its message, one after the other. -/
theorem readFrom_more {more : List Continuation} (legible : ∀ c ∈ more, c.Legible) :
    readFrom (d :: read) (more.flatMap (·.print) ++ rest) =
      readFrom ({ d with message := extended d.message more } :: read) rest := by
  induction more generalizing d with
  | nil => rfl
  | cons c more ih =>
    obtain ⟨here, legible⟩ := List.forall_mem_cons.mp legible
    have inner : OneLine (c.indent ++ c.text).toList := by
      rw [String.toList_append, oneLine_append]
      exact ⟨here.indentLine, here.textLine⟩
    rw [List.flatMap_cons, Continuation.print, printLines_append, List.append_assoc, List.append_assoc,
      readFrom_gap here.gap, readFrom_line inner (addLine_continuation here), ih legible]
    rfl

/-- Every block adds one warning. -/
theorem readFrom_blocks {blocks : List Block} (legible : ∀ b ∈ blocks, b.Legible) :
    readFrom read (blocks.flatMap (·.print) ++ rest) =
      readFrom ((blocks.map Block.merged).reverse ++ read) rest := by
  induction blocks generalizing read with
  | nil => rfl
  | cons b blocks ih =>
    obtain ⟨here, legible⟩ := List.forall_mem_cons.mp legible
    rw [List.flatMap_cons, Block.print, printLines_append]
    simp only [List.append_assoc]
    rw [readFrom_gap here.gap, readFrom_line (oneLine_format here.warning.flat) (addLine_format here.warning),
      readFrom_more here.more, ih legible, List.map_cons, List.reverse_cons, List.append_assoc]
    rfl

/-- A printed transcript is read as one warning for each of its blocks, in their order: the one that was
printed, its message extended by the lines that continue it. -/
theorem warnings_transcript {blocks : List Block} {gap : List String} (legible : ∀ b ∈ blocks, b.Legible)
    (blank : BlankLines gap) : warnings (transcript blocks gap) = .ok (blocks.map Block.merged) := by
  have read : readFrom [] (blocks.flatMap (·.print) ++ printLines gap) =
      .ok ((blocks.map Block.merged).reverse) := by
    rw [readFrom_blocks legible, ← List.append_nil (printLines gap), readFrom_gap blank, List.append_nil]
    rfl
  unfold readFrom at read
  rw [warnings, transcript, String.toList_ofList, read]
  simp [bind, Except.bind, pure, Except.pure]

/-- Two warnings, one with positions in its message and a line that continues it, one without a file. -/
theorem warnings_of_two_blocks :
    warnings "\n \t\nfoo.erl:12:5: no return, see bar.erl:7: baz\n  \n   which breaks \n:3: unknown\n\n" =
      .ok [⟨"foo.erl", 12, "no return, see bar.erl:7: baz which breaks", some 5, none⟩,
        ⟨"", 3, "unknown", none, none⟩] := by
  let continuation : Continuation := ⟨["  "], "   ", "which breaks "⟩
  let first : Block :=
    ⟨["", " \t"], ⟨"foo.erl", 12, "no return, see bar.erl:7: baz", some 5, none⟩, [continuation]⟩
  let second : Block := ⟨[], ⟨"", 3, "unknown", none, none⟩, []⟩
  have continuationLegible : continuation.Legible :=
    { gap := by decide, indented := by decide, indentBlank := by decide, indentLine := by decide
      textLine := by decide, textVisible := by decide }
  have firstLegible : first.Legible :=
    { gap := by decide
      warning :=
        { fileLine := by decide
          fileFront := by
            intro c front
            obtain rfl : 'f' = c := by simpa [first] using front
            decide
          fileFree := by
            intro before c after split
            have colon : ':' ∈ "foo.erl".toList := by
              rw [show "foo.erl".toList = before ++ ':' :: c :: after from split]
              simp
            exact absurd colon (by decide)
          line := ⟨12, rfl, by decide⟩
          column := fun column same => ⟨5, (Option.some.inj same).symm, by decide⟩
          messageSome := by decide
          messageLine := by decide
          messageBack := by
            intro c last
            obtain rfl : 'z' = c := by simpa [first] using last
            decide
          tag := rfl }
      more := fun c member => (List.mem_singleton.mp member) ▸ continuationLegible }
  have secondLegible : second.Legible :=
    { gap := by decide
      warning :=
        { fileLine := by decide
          fileFront := fun c first => nomatch first
          fileFree := fun before c after split => absurd split.symm (by simp [second])
          line := ⟨3, rfl, by decide⟩
          column := fun column same => nomatch same
          messageSome := by decide
          messageLine := by decide
          messageBack := by
            intro c last
            obtain rfl : 'n' = c := by simpa [second] using last
            decide
          tag := rfl }
      more := fun c member => nomatch member }
  have legible : ∀ b ∈ [first, second], b.Legible := by
    simp only [List.forall_mem_cons]
    exact ⟨firstLegible, secondLegible, fun b member => nomatch member⟩
  have printed : transcript [first, second] [""] =
      "\n \t\nfoo.erl:12:5: no return, see bar.erl:7: baz\n  \n   which breaks \n:3: unknown\n\n" := by
    decide +kernel
  have merged : [first, second].map Block.merged =
      [⟨"foo.erl", 12, "no return, see bar.erl:7: baz which breaks", some 5, none⟩,
        ⟨"", 3, "unknown", none, none⟩] := by decide +kernel
  rw [← printed, ← merged]
  exact warnings_transcript legible (by decide)

end Dialyzer

end PltKeeper
