import PltKeeper.Application.Directory
import Mathlib.Data.List.Chain

/-! What the name of an application directory says. Hyphens may stand in an application's name and in a version
alike, so one name can often be read in several ways; the one that counts leaves the application the shortest name.
An application's name that has no digit behind a hyphen therefore comes back whole, whatever version is joined to
it, and a directory that is taken for an application's bears its name, alone or with a version. -/
namespace PltKeeper.AppDirectory

open Text

/-- A version: a decimal digit, then word characters, dots, hyphens and plus signs only. -/
def IsVersion : List Char → Prop
  | [] => False
  | d :: rest => isDigit d = true ∧ ∀ c ∈ rest, isVersionChar c = true

instance : DecidablePred IsVersion
  | [] => isFalse id
  | d :: rest => decidable_of_iff (isDigit d = true ∧ rest.all isVersionChar = true)
      (by simp only [IsVersion, List.all_eq_true])

/-- One way to read the name of a directory: a name on one line, a hyphen and a version. A line feed after the
version does not count. -/
structure Reading (s name version : List Char) : Prop where
  text : s = name ++ '-' :: version ∨ s = name ++ '-' :: version ++ ['\n']
  filled : name ≠ []
  oneLine : '\n' ∉ name
  versioned : IsVersion version

/-- What is sought in the name of a directory: of the ways to read it that leave a name of at least `n` characters
the one with the shortest name, or nothing if there is none. -/
inductive Sought (n : Nat) (s : List Char) : Option (List Char × List Char) → Prop
  | shortest {name version : List Char} (reading : Reading s name version) (long : n ≤ name.length)
    (least : ∀ name' version', Reading s name' version' → n ≤ name'.length → name.length ≤ name'.length) :
    Sought n s (some (name, version))
  | unread (short : ∀ name version, Reading s name version → name.length < n) : Sought n s none

variable {c : Char} {n : Nat} {read rest s name version name' version' : List Char}

/-! ## Versions -/

theorem version?_eq_some_iff :
    version? s = some version ↔ (s = version ∨ s = version ++ ['\n']) ∧ IsVersion version := by
  have lineFeed : isVersionChar '\n' = false := by decide +kernel
  constructor
  · intro found
    unfold version? at found
    split at found
    · rename_i d rest
      simp only [Option.ite_none_right_eq_some, Option.some.injEq, Bool.and_eq_true, List.all_eq_true] at found
      obtain ⟨⟨digit, plain⟩, rfl⟩ := found
      refine ⟨?_, digit, plain⟩
      unfold dropFinalLineFeed
      split
      · rename_i last
        rw [List.cons_append, List.dropLast_append_getLast? '\n' last]
        exact .inr rfl
      · exact .inl rfl
    · exact nomatch found
  · rintro ⟨text, versioned⟩
    cases version with
    | nil => exact versioned.elim
    | cons d body =>
      obtain ⟨digit, plain⟩ := versioned
      -- No version ends in a line feed, so only the one after it is taken off.
      have kept : dropFinalLineFeed body = body := by
        refine if_neg fun last => ?_
        exact nomatch lineFeed.symm.trans (plain _ (List.mem_of_getLast? last))
      have dropped : dropFinalLineFeed (body ++ ['\n']) = body := by simp [dropFinalLineFeed]
      have all : (isDigit d && body.all isVersionChar) = true := by
        rw [digit, List.all_eq_true.mpr plain]
        rfl
      rcases text with rfl | rfl
      · simp only [version?, kept, all, ↓reduceIte]
      · simp only [List.cons_append, version?, dropped, all, ↓reduceIte]

theorem IsVersion.head (versioned : IsVersion s) : ∃ d rest, s = d :: rest ∧ isDigit d = true := by
  cases s with
  | nil => exact versioned.elim
  | cons d rest => exact ⟨d, rest, rfl, versioned.1⟩

/-! ## Ways to read a name -/

theorem Reading.starts (reading : Reading s name version) : name <+: s := by
  rcases reading.text with text | text
  · exact ⟨_, text.symm⟩
  · exact ⟨_, by rw [text, List.append_assoc]⟩

theorem Reading.length_lt (reading : Reading s name version) : name.length < s.length := by
  rcases reading.text with rfl | rfl <;> simp

/-- There is a version behind a hyphen that follows the name. -/
theorem reading_iff : Reading s name version ↔
    name ≠ [] ∧ '\n' ∉ name ∧ ∃ rest, s = name ++ '-' :: rest ∧ version? rest = some version := by
  simp only [version?_eq_some_iff]
  constructor
  · rintro ⟨text | text, filled, oneLine, versioned⟩
    · exact ⟨filled, oneLine, _, text, .inl rfl, versioned⟩
    · exact ⟨filled, oneLine, _, by rw [text, List.append_assoc, List.cons_append], .inr rfl, versioned⟩
  · rintro ⟨filled, oneLine, rest, text, rfl | rfl, versioned⟩
    · exact ⟨.inl text, filled, oneLine, versioned⟩
    · exact ⟨.inr (by rw [text, List.append_assoc, List.cons_append]), filled, oneLine, versioned⟩

/-- The length of the name decides how it is read. -/
theorem Reading.unique (reading : Reading s name version) (reading' : Reading s name' version')
    (same : name'.length = name.length) : name' = name ∧ version' = version := by
  obtain ⟨-, -, rest, text, found⟩ := reading_iff.mp reading
  obtain ⟨-, -, rest', text', found'⟩ := reading_iff.mp reading'
  obtain ⟨sameName, sameRest⟩ := List.append_inj (text'.symm.trans text) same
  obtain rfl := List.cons_inj_right _ |>.mp sameRest
  exact ⟨sameName, Option.some.inj (found'.symm.trans found)⟩

/-- Where no name ends after just `n` characters, longer ones are sought. -/
theorem Sought.earlier {a : Option (List Char × List Char)} (sought : Sought (n + 1) s a)
    (further : ∀ name version, Reading s name version → n ≤ name.length → n + 1 ≤ name.length) : Sought n s a := by
  cases sought with
  | shortest reading long least =>
    exact .shortest reading (Nat.le_of_succ_le long) fun _ _ other long => least _ _ other (further _ _ other long)
  | unread short =>
    refine .unread fun name version reading => Nat.lt_of_not_le fun long => ?_
    exact absurd (further name version reading long) (Nat.not_le.mpr (short name version reading))

/-! ## Reading a name from its front -/

/-- A name is read with what stands before a hyphen just where the search stops. -/
theorem reading_here_iff (oneLine : '\n' ∉ read) : Reading (read.reverse ++ c :: rest) read.reverse version ↔
    (if c = '-' && !read.isEmpty then version? rest else none) = some version := by
  rw [reading_iff]
  simp only [ne_eq, List.reverse_eq_nil_iff, List.mem_reverse, List.append_cancel_left_eq, List.cons.injEq,
    Option.ite_none_right_eq_some, Bool.and_eq_true, decide_eq_true_eq, Bool.not_eq_true', List.isEmpty_eq_false_iff]
  constructor
  · rintro ⟨filled, -, rest, ⟨hyphen, rfl⟩, found⟩
    exact ⟨⟨hyphen, filled⟩, found⟩
  · rintro ⟨⟨hyphen, filled⟩, found⟩
    exact ⟨filled, oneLine, rest, ⟨hyphen, rfl⟩, found⟩

/-- Where it does not stop, every name that reaches so far has the next character as well. -/
theorem Reading.further (reading : Reading (read.reverse ++ c :: rest) name version) (oneLine : '\n' ∉ read)
    (passed : (if c = '-' && !read.isEmpty then version? rest else none) = none) (long : read.length ≤ name.length) :
    (c :: read).reverse <+: name := by
  have front : (c :: read).reverse <+: read.reverse ++ c :: rest := ⟨rest, by simp⟩
  refine List.prefix_of_prefix_length_le front reading.starts ?_
  rw [List.length_reverse, List.length_cons, Nat.succ_le_iff]
  refine long.lt_of_ne fun same => ?_
  have stops : read.reverse <+: name :=
    List.prefix_of_prefix_length_le (List.prefix_append _ _) reading.starts (by simpa using long)
  obtain rfl := stops.eq_of_length (by simpa using same)
  exact nomatch passed.symm.trans ((reading_here_iff oneLine).mp reading)

/-- From any place on the first hyphen with a version behind it is found. -/
theorem sought_splitFrom (oneLine : '\n' ∉ read) : Sought read.length (read.reverse ++ s) (splitFrom read s) := by
  -- What has been read grows by each character that is passed, and is on one line all the while.
  induction s generalizing read with
  | nil =>
    refine .unread fun name version reading => ?_
    simpa using reading.length_lt
  | cons c rest ih =>
    rw [splitFrom]
    split
    · rename_i version here
      refine .shortest ((reading_here_iff oneLine).mpr here) (by simp) fun _ _ _ long => ?_
      simpa using long
    · rename_i passed
      split
      · rename_i lineFeed
        refine .unread fun name version reading => Nat.lt_of_not_le fun long => reading.oneLine ?_
        exact (reading.further oneLine passed long).subset (by simp [lineFeed])
      · rename_i other
        have later : Sought (c :: read).length ((c :: read).reverse ++ rest) (splitFrom (c :: read) rest) :=
          ih (by simp [oneLine, Ne.symm other])
        rw [List.reverse_cons, List.append_assoc, List.singleton_append] at later
        refine later.earlier fun name version reading long => ?_
        simpa using (reading.further oneLine passed long).length_le

/-! ## The parts of a name -/

/-- A name that cannot be read with a version is that of an application, and any other is taken apart with the
shortest name that it can be read with. -/
theorem ofName_readings (d : String) :
    (ofName d = ⟨d, ""⟩ ∧ ∀ name version, ¬ Reading d.toList name version) ∨
      Reading d.toList (ofName d).name.toList (ofName d).version.toList ∧
        ∀ name version, Reading d.toList name version → (ofName d).name.toList.length ≤ name.length := by
  have sought : Sought 0 d.toList (splitFrom [] d.toList) := sought_splitFrom List.not_mem_nil
  unfold ofName
  cases parts : splitFrom [] d.toList with
  | none =>
    rw [parts] at sought
    cases sought with
    | unread short => exact .inl ⟨rfl, fun name version reading => Nat.not_lt_zero _ (short name version reading)⟩
  | some parts' =>
    rw [parts] at sought
    cases sought with
    | shortest reading long least =>
      simp only [String.toList_ofList]
      exact .inr ⟨reading, fun name' version' reading' => least name' version' reading' (Nat.zero_le _)⟩

/-- A digit behind a hyphen starts no version if a blank follows. -/
example : ofName "a-1 b-2-c" = ⟨"a-1 b", "2-c"⟩ := by decide +kernel

theorem ofName_of_unread {d : String} (unread : ∀ name version, ¬ Reading d.toList name version) :
    ofName d = ⟨d, ""⟩ := by
  rcases ofName_readings d with ⟨whole, -⟩ | ⟨reading, -⟩
  · exact whole
  · exact absurd reading (unread _ _)

theorem ofName_of_least {d name version : String} (reading : Reading d.toList name.toList version.toList)
    (least : ∀ name' version', Reading d.toList name' version' → name.toList.length ≤ name'.length) :
    ofName d = ⟨name, version⟩ := by
  rcases ofName_readings d with ⟨-, unread⟩ | ⟨reading', least'⟩
  · exact absurd reading (unread _ _)
  · obtain ⟨sameName, sameVersion⟩ := reading.unique reading' <|
      Nat.le_antisymm (least' _ _ reading) (least _ _ reading')
    rw [← String.toList_injective sameName, ← String.toList_injective sameVersion]

/-- A directory has no version, and the name of its application, or it carries one after the name and a
hyphen, which starts with a digit. -/
theorem ofName_cases (d : String) :
    (ofName d = ⟨d, ""⟩) ∨
      (d.toList = (ofName d).name.toList ++ '-' :: (ofName d).version.toList ∨
        d.toList = (ofName d).name.toList ++ '-' :: (ofName d).version.toList ++ ['\n']) ∧
      ∃ c rest, (ofName d).version.toList = c :: rest ∧ isDigit c = true := by
  rcases ofName_readings d with ⟨whole, -⟩ | ⟨reading, -⟩
  · exact .inl whole
  · obtain ⟨c, rest, version, digit⟩ := reading.versioned.head
    exact .inr ⟨reading.text, c, rest, version, digit⟩

/-! ## Names with a version joined to them -/

/-- The name of an application, on one line, in which no hyphen but the first character stands right before a
decimal digit. -/
structure IsName (s : List Char) : Prop where
  filled : s ≠ []
  oneLine : '\n' ∉ s
  apart : s.tail.IsChain fun c d => c = '-' → isDigit d = false

instance : DecidablePred IsName := fun s =>
  decidable_of_iff (s ≠ [] ∧ '\n' ∉ s ∧ s.tail.IsChain fun c d => c = '-' → isDigit d = false)
    ⟨fun ⟨filled, oneLine, apart⟩ => ⟨filled, oneLine, apart⟩, fun h => ⟨h.filled, h.oneLine, h.apart⟩⟩

theorem IsName.not_digit {before after : List Char} {d : Char} (named : IsName name) (inside : before ≠ [])
    (text : name = before ++ '-' :: d :: after) : isDigit d = false := by
  have tail : name.tail = before.tail ++ '-' :: d :: after := by rw [text, List.tail_append_of_ne_nil inside]
  exact List.isChain_iff_forall_rel_of_append_cons_cons.mp named.apart tail rfl

/-- No version starts within such a name, nor behind it if no digit follows. -/
theorem IsName.le_of_reading {tail : List Char} (named : IsName name) (follows : ∀ d ∈ tail.head?, isDigit d = false)
    (reading : Reading (name ++ tail) name' version') : name.length ≤ name'.length := by
  refine Nat.le_of_not_lt fun less => ?_
  obtain ⟨d, rest, versioned, digit⟩ := reading.versioned.head
  obtain ⟨filled, -, rest', text, found⟩ := reading_iff.mp reading
  obtain ⟨more, rfl⟩ : ∃ more, rest' = d :: more := by
    rcases (version?_eq_some_iff.mp found).1 with rfl | rfl
    · exact ⟨rest, versioned⟩
    · exact ⟨rest ++ ['\n'], by rw [versioned, List.cons_append]⟩
  obtain ⟨mid, rfl⟩ := List.prefix_of_prefix_length_le ⟨_, text.symm⟩ (List.prefix_append name tail) less.le
  rw [List.append_assoc, List.append_cancel_left_eq] at text
  match mid with
  | [] => simp at less
  | [c] =>
    obtain ⟨rfl, rfl⟩ : c = '-' ∧ tail = d :: more := by simpa using text
    exact nomatch digit.symm.trans (follows d rfl)
  | c :: d' :: after =>
    obtain ⟨rfl, rfl, -⟩ : c = '-' ∧ d' = d ∧ after ++ tail = more := by simpa using text
    exact nomatch digit.symm.trans (named.not_digit filled rfl)

theorem IsName.ofName_eq {name : String} (named : IsName name.toList) : ofName name = ⟨name, ""⟩ := by
  refine ofName_of_unread fun name' version' reading => Nat.not_le.mpr reading.length_lt ?_
  have whole : Reading (name.toList ++ []) name' version' := by rwa [List.append_nil]
  exact named.le_of_reading (by simp) whole

theorem IsName.ofName_joined {name version : String} (named : IsName name.toList)
    (versioned : IsVersion version.toList) : ofName (name ++ "-" ++ version) = ⟨name, version⟩ := by
  have text : (name ++ "-" ++ version).toList = name.toList ++ '-' :: version.toList := by simp
  have hyphen : isDigit '-' = false := by decide
  refine ofName_of_least ⟨.inl text, named.filled, named.oneLine, versioned⟩ fun name' version' reading => ?_
  rw [text] at reading
  exact named.le_of_reading (by simp [hyphen]) reading

/-- The parts of a name on one line make it up. -/
theorem joined_ofName {d name version : String} (oneLine : '\n' ∉ d.toList) (parts : ofName d = ⟨name, version⟩) :
    (d = name ∧ version = "") ∨ (d = name ++ "-" ++ version ∧ name ≠ "" ∧ IsVersion version.toList) := by
  have readings := ofName_readings d
  simp only [parts] at readings
  rcases readings with ⟨whole, -⟩ | ⟨reading, -⟩
  · obtain ⟨rfl, rfl⟩ := AppDirectory.mk.inj whole
    exact .inl ⟨rfl, rfl⟩
  · have text : d.toList = name.toList ++ '-' :: version.toList := by
      refine reading.text.resolve_right fun text => oneLine ?_
      rw [text]
      exact List.mem_append_right _ List.mem_cons_self
    refine .inr ⟨String.toList_injective (by simp [text]), ?_, reading.versioned⟩
    rintro rfl
    exact reading.filled rfl

/-- Such a name comes back whole, with no version or with the one that is joined to it. Conversely, what the name of
a directory on one line is taken apart into makes up this name, and a version is one that starts with a digit. -/
theorem parts_of_directory :
    (∀ name : String, IsName name.toList → ofName name = ⟨name, ""⟩ ∧
      ∀ version : String, IsVersion version.toList → ofName (name ++ "-" ++ version) = ⟨name, version⟩) ∧
    ∀ d name version : String, '\n' ∉ d.toList → ofName d = ⟨name, version⟩ →
      (version = "" → d = name) ∧
      (version ≠ "" → d = name ++ "-" ++ version ∧ name ≠ "" ∧ IsVersion version.toList) := by
  refine ⟨fun name named => ⟨named.ofName_eq, fun version versioned => named.ofName_joined versioned⟩, ?_⟩
  intro d name version oneLine parts
  rcases joined_ofName oneLine parts with ⟨whole, bare⟩ | ⟨joined, filled, versioned⟩
  · exact ⟨fun _ => whole, fun some => absurd bare some⟩
  · refine ⟨?_, fun _ => ⟨joined, filled, versioned⟩⟩
    rintro rfl
    exact versioned.elim

/-- The first hyphen of this name stands before a digit, and its last character is a hyphen. -/
theorem parts_of_hyphenated :
    IsName "-9p-fs-".toList ∧ IsVersion "5.1-rc.2+x".toList ∧ '\n' ∉ "-9p-fs--5.1-rc.2+x".toList ∧
      ofName "-9p-fs-" = ⟨"-9p-fs-", ""⟩ ∧ ofName "-9p-fs--5.1-rc.2+x" = ⟨"-9p-fs-", "5.1-rc.2+x"⟩ ∧
      "-9p-fs--5.1-rc.2+x" = "-9p-fs-" ++ "-" ++ "5.1-rc.2+x" := by
  have named : IsName "-9p-fs-".toList := by decide +kernel
  have versioned : IsVersion "5.1-rc.2+x".toList := by decide +kernel
  have oneLine : '\n' ∉ "-9p-fs--5.1-rc.2+x".toList := by decide +kernel
  obtain ⟨bare, joined⟩ := parts_of_directory.1 "-9p-fs-" named
  have apart : ofName "-9p-fs--5.1-rc.2+x" = ⟨"-9p-fs-", "5.1-rc.2+x"⟩ := joined "5.1-rc.2+x" versioned
  have together := (parts_of_directory.2 _ _ _ oneLine apart).2 (by decide)
  exact ⟨named, versioned, oneLine, bare, apart, together.1⟩

end PltKeeper.AppDirectory
