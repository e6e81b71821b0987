import PltKeeper.Proofs.Json.Scanning
import PltKeeper.Proofs.Traversal

/-! The grammar of documents, and the reader against it. A text spells the document it is written as,
with every member of an object; what the reader returns is the document that one is understood as. Two
steps of fuel for each character are enough. -/
namespace PltKeeper.Json

/-- What of a document a text spells. -/
inductive Part
  /-- A value. -/
  | value
  /-- The items of a list, up to its end. -/
  | items
  /-- The members of an object, up to its end. -/
  | members

/-- The text begins with a name and the colon after it. -/
def Names (s : List Char) (name : String) (rest : List Char) : Prop :=
  ∃ body afterName more, s = '"' :: body ∧ readText [] (body.length + 1) body = .ok (name, afterName) ∧
    skipGap afterName = ':' :: more ∧ rest = skipGap more

/-- The front of a text spells a part of a document, as written, in which lists and objects stand within
each other `levels` deep at most. What follows is left. -/
inductive Spells : Part → Nat → List Char → Json → List Char → Prop
  | text {levels body text after} (ran : readText [] (body.length + 1) body = .ok (text, after)) :
    Spells .value levels ('"' :: body) (.str text) after
  | atom {levels s value after} (ran : readAtom s = .ok (value, after)) :
    Spells .value levels s value after
  | noItems {levels s after} (ends : skipGap s = ']' :: after) :
    Spells .value (levels + 1) ('[' :: s) (.arr []) after
  | list {levels s items after} (inside : Spells .items levels (skipGap s) (.arr items) after) :
    Spells .value (levels + 1) ('[' :: s) (.arr items) after
  | noMembers {levels s after} (ends : skipGap s = '}' :: after) :
    Spells .value (levels + 1) ('{' :: s) (.obj []) after
  | object {levels s members after} (inside : Spells .members levels (skipGap s) (.obj members) after) :
    Spells .value (levels + 1) ('{' :: s) (.obj members) after
  | lastItem {levels s item rest after} (first : Spells .value levels s item rest)
      (ends : skipGap rest = ']' :: after) :
    Spells .items levels s (.arr [item]) after
  | nextItem {levels s item rest more items after} (first : Spells .value levels s item rest)
      (comma : skipGap rest = ',' :: more) (others : Spells .items levels (skipGap more) (.arr items) after) :
    Spells .items levels s (.arr (item :: items)) after
  | lastMember {levels s name inner value rest after} (named : Names s name inner)
      (first : Spells .value levels inner value rest) (ends : skipGap rest = '}' :: after) :
    Spells .members levels s (.obj [(name, value)]) after
  | nextMember {levels s name inner value rest more members after} (named : Names s name inner)
      (first : Spells .value levels inner value rest) (comma : skipGap rest = ',' :: more)
      (others : Spells .members levels (skipGap more) (.obj members) after) :
    Spells .members levels s (.obj ((name, value) :: members)) after

/-! ## The reader, one step at a time -/

section Steps

variable {levels fuel : Nat} {s rest after : List Char} {value : Json}

theorem readItems_ok_iff {read : List Json} :
    readItems levels read (fuel + 1) s = .ok (value, after) ↔
      ∃ item rest, readValue levels fuel s = .ok (item, rest) ∧
        (skipGap rest = ']' :: after ∧ value = .arr (read.reverse ++ [item]) ∨
          ∃ more, skipGap rest = ',' :: more ∧
            readItems levels (item :: read) fuel (skipGap more) = .ok (value, after)) := by
  rw [readItems, bind_ok_iff]
  constructor
  · rintro ⟨⟨item, rest⟩, first, ran⟩
    refine ⟨item, rest, first, ?_⟩
    simp only at ran
    split at ran
    · rename_i more comma
      exact .inr ⟨more, comma, ran⟩
    · rename_i tail ends
      cases ran
      exact .inl ⟨ends, by simp⟩
    · cases ran
  · rintro ⟨item, rest, first, ⟨ends, rfl⟩ | ⟨more, comma, others⟩⟩
    · exact ⟨(item, rest), first, by simp [ends, pure, Except.pure]⟩
    · exact ⟨(item, rest), first, by simp [comma, others]⟩

theorem readFields_ok_iff {read : List (String × Json)} :
    readFields levels read (fuel + 1) s = .ok (value, after) ↔
      ∃ name inner first rest, Names s name inner ∧ readValue levels fuel inner = .ok (first, rest) ∧
        (skipGap rest = '}' :: after ∧ value = .obj (putField read name first) ∨
          ∃ more, skipGap rest = ',' :: more ∧
            readFields levels (putField read name first) fuel (skipGap more) = .ok (value, after)) := by
  constructor
  · intro ran
    rw [readFields.eq_def] at ran
    simp only at ran
    split at ran
    · rename_i body
      obtain ⟨⟨name, afterName⟩, text, ran⟩ := bind_ok_iff.mp ran
      simp only at ran
      split at ran
      · rename_i more colon
        obtain ⟨⟨first, rest⟩, inner, ran⟩ := bind_ok_iff.mp ran
        refine ⟨name, skipGap more, first, rest, ⟨body, afterName, more, rfl, text, colon, rfl⟩, inner, ?_⟩
        simp only at ran
        split at ran
        · rename_i tail comma
          exact .inr ⟨tail, comma, ran⟩
        · rename_i tail ends
          cases ran
          exact .inl ⟨ends, rfl⟩
        · cases ran
      · cases ran
    · cases ran
  · rintro ⟨name, _, first, rest, ⟨body, afterName, more, rfl, text, colon, rfl⟩, inner, last⟩
    rw [readFields, bind_ok_iff]
    refine ⟨(name, afterName), text, ?_⟩
    simp only [colon]
    rw [bind_ok_iff]
    refine ⟨(first, rest), inner, ?_⟩
    rcases last with ⟨ends, rfl⟩ | ⟨tail, comma, others⟩
    · simp [ends, pure, Except.pure]
    · simp [comma, others]

theorem readValue_of_mark : readValue levels fuel (']' :: rest) = .error .malformed := by
  cases fuel with
  | zero => rfl
  | succ fuel =>
    rw [readValue, readAtom_of_mark (by simp)] <;> simp

theorem readItems_of_mark {read : List Json} :
    readItems levels read fuel (']' :: rest) = .error .malformed := by
  cases fuel with
  | zero => rfl
  | succ fuel => rw [readItems, readValue_of_mark]; rfl

theorem readFields_of_mark {read : List (String × Json)} :
    readFields levels read fuel ('}' :: rest) = .error .malformed := by
  cases fuel with
  | zero => rfl
  | succ fuel => rw [readFields]; simp

theorem readValue_ok_iff :
    readValue levels (fuel + 1) s = .ok (value, after) ↔
      (∃ body text, s = '"' :: body ∧ readText [] (body.length + 1) body = .ok (text, after) ∧
        value = .str text) ∨
      readAtom s = .ok (value, after) ∨
      (∃ inner body, levels = inner + 1 ∧ s = '[' :: body ∧
        (skipGap body = ']' :: after ∧ value = .arr [] ∨
          readItems inner [] fuel (skipGap body) = .ok (value, after))) ∨
      (∃ inner body, levels = inner + 1 ∧ s = '{' :: body ∧
        (skipGap body = '}' :: after ∧ value = .obj [] ∨
          readFields inner [] fuel (skipGap body) = .ok (value, after))) := by
  constructor
  · intro ran
    rw [readValue.eq_def] at ran
    simp only at ran
    split at ran
    · rename_i body
      obtain ⟨⟨text, tail⟩, text, ran⟩ := bind_ok_iff.mp ran
      cases ran
      exact .inl ⟨body, _, rfl, text, rfl⟩
    · rename_i body
      cases levels with
      | zero => cases ran
      | succ inner =>
        refine .inr (.inr (.inl ⟨inner, body, rfl, rfl, ?_⟩))
        simp only [Nat.add_eq_zero_iff, Nat.one_ne_zero, and_false, if_false, Nat.add_sub_cancel] at ran
        split at ran
        · rename_i tail ends
          cases ran
          exact .inl ⟨ends, rfl⟩
        · exact .inr ran
    · rename_i body
      cases levels with
      | zero => cases ran
      | succ inner =>
        refine .inr (.inr (.inr ⟨inner, body, rfl, rfl, ?_⟩))
        simp only [Nat.add_eq_zero_iff, Nat.one_ne_zero, and_false, if_false, Nat.add_sub_cancel] at ran
        split at ran
        · rename_i tail ends
          cases ran
          exact .inl ⟨ends, rfl⟩
        · exact .inr ran
    · exact .inr (.inl ran)
  · rintro (⟨body, text, rfl, ran, rfl⟩ | atom | ⟨inner, body, rfl, rfl, inside⟩ |
      ⟨inner, body, rfl, rfl, inside⟩)
    · rw [readValue, bind_ok_iff]
      exact ⟨_, ran, rfl⟩
    · have unmarked (c : Char) (mark : c ∈ ['"', '[', '{', ']']) (tail : List Char)
          (starts : s = c :: tail) : False := by
        rw [starts, readAtom_of_mark mark] at atom
        cases atom
      rw [readValue, atom]
      · exact fun tail => unmarked '"' (by simp) tail
      · exact fun tail => unmarked '[' (by simp) tail
      · exact fun tail => unmarked '{' (by simp) tail
    · rw [readValue]
      simp only [Nat.add_eq_zero_iff, Nat.one_ne_zero, and_false, if_false, Nat.add_sub_cancel]
      rcases inside with ⟨ends, rfl⟩ | ran
      · simp only [ends]
      · split
        · rename_i starts
          rw [starts, readItems_of_mark] at ran
          cases ran
        · exact ran
    · rw [readValue]
      simp only [Nat.add_eq_zero_iff, Nat.one_ne_zero, and_false, if_false, Nat.add_sub_cancel]
      rcases inside with ⟨ends, rfl⟩ | ran
      · simp only [ends]
      · split
        · rename_i starts
          rw [starts, readFields_of_mark] at ran
          cases ran
        · exact ran

end Steps

/-! ## Soundness -/

/-- What the reader returns is what the text in front is written as. -/
theorem spells_of_read (fuel : Nat) :
    (∀ {levels s value rest}, readValue levels fuel s = .ok (value, rest) →
      ∃ written, Spells .value levels s written rest ∧ written.settled = value) ∧
    (∀ {levels read s value rest}, readItems levels read fuel s = .ok (value, rest) →
      ∃ items, Spells .items levels s (.arr items) rest ∧ value = .arr (read.reverse ++ settledItems items)) ∧
    (∀ {levels read s value rest}, readFields levels read fuel s = .ok (value, rest) →
      ∃ members, Spells .members levels s (.obj members) rest ∧ value = .obj (settledMembers read members)) := by
  induction fuel with
  | zero => refine ⟨?_, ?_, ?_⟩ <;> intros <;> contradiction
  | succ fuel ih =>
    obtain ⟨ofValue, ofItems, ofFields⟩ := ih
    refine ⟨fun ran => ?value, fun ran => ?items, fun ran => ?fields⟩
    case value =>
      rcases readValue_ok_iff.mp ran with ⟨body, text, rfl, inside, rfl⟩ | atom |
        ⟨inner, body, rfl, rfl, inside⟩ | ⟨inner, body, rfl, rfl, inside⟩
      · exact ⟨_, .text inside, rfl⟩
      · exact ⟨_, .atom atom, (readAtom_takes atom).2⟩
      · rcases inside with ⟨ends, rfl⟩ | inside
        · exact ⟨_, .noItems ends, rfl⟩
        · obtain ⟨items, spelled, rfl⟩ := ofItems inside
          exact ⟨_, .list spelled, rfl⟩
      · rcases inside with ⟨ends, rfl⟩ | inside
        · exact ⟨_, .noMembers ends, rfl⟩
        · obtain ⟨members, spelled, rfl⟩ := ofFields inside
          exact ⟨_, .object spelled, rfl⟩
    case items =>
      obtain ⟨item, rest, first, last⟩ := readItems_ok_iff.mp ran
      obtain ⟨written, spelled, rfl⟩ := ofValue first
      rcases last with ⟨ends, rfl⟩ | ⟨more, comma, others⟩
      · exact ⟨_, .lastItem spelled ends, rfl⟩
      · obtain ⟨items, spelledToo, rfl⟩ := ofItems others
        exact ⟨_, .nextItem spelled comma spelledToo, by simp [settledItems]⟩
    case fields =>
      obtain ⟨name, inner, value, rest, named, first, last⟩ := readFields_ok_iff.mp ran
      obtain ⟨written, spelled, rfl⟩ := ofValue first
      rcases last with ⟨ends, rfl⟩ | ⟨more, comma, others⟩
      · exact ⟨_, .lastMember named spelled ends, rfl⟩
      · obtain ⟨members, spelledToo, rfl⟩ := ofFields others
        exact ⟨_, .nextMember named spelled comma spelledToo, rfl⟩

/-! ## Completeness -/

theorem Names.takes {s rest : List Char} {name : String} (named : Names s name rest) :
    rest.length + 2 ≤ s.length := by
  obtain ⟨body, afterName, more, rfl, text, colon, rfl⟩ := named
  have taken := readText_takes text
  have skipped : (skipGap afterName).length ≤ afterName.length := length_skipGap_le
  have skippedToo : (skipGap more).length ≤ more.length := length_skipGap_le
  rw [colon] at skipped
  simp only [List.length_cons] at skipped ⊢
  omega

/-- What spells a part of a document takes a character at least. -/
theorem Spells.takes {part levels s written rest} (spelled : Spells part levels s written rest) :
    rest.length < s.length := by
  have gap (s : List Char) : (skipGap s).length ≤ s.length := length_skipGap_le
  induction spelled with
  | text ran =>
    have := readText_takes ran
    simp only [List.length_cons]
    omega
  | atom ran => exact (readAtom_takes ran).1
  | @noItems _ s _ ends | @noMembers _ s _ ends =>
    have := gap s
    rw [ends] at this
    simp only [List.length_cons] at this ⊢
    omega
  | @list _ s _ _ _ ih | @object _ s _ _ _ ih =>
    have := gap s
    simp only [List.length_cons]
    omega
  | @lastItem _ _ _ rest _ _ ends ih =>
    have := gap rest
    rw [ends] at this
    simp only [List.length_cons] at this
    omega
  | @nextItem _ _ _ rest more _ _ _ comma _ ih ihOthers =>
    have := gap rest
    have := gap more
    simp only [comma, List.length_cons] at *
    omega
  | @lastMember _ _ _ _ _ rest _ named _ ends ih =>
    have := gap rest
    have := named.takes
    simp only [ends, List.length_cons] at *
    omega
  | @nextMember _ _ _ _ _ rest more _ _ named _ comma _ ih ihOthers =>
    have := gap rest
    have := gap more
    have := named.takes
    simp only [comma, List.length_cons] at *
    omega

/-- The reader returns a part of a document as it is understood, with two steps of fuel for each
character. -/
def Reads : Part → Nat → List Char → Json → List Char → Prop
  | .value, levels, s, written, rest =>
    ∀ fuel, 2 * s.length ≤ fuel → readValue levels fuel s = .ok (written.settled, rest)
  | .items, levels, s, written, rest =>
    ∀ read fuel items, written = .arr items → 2 * s.length + 1 ≤ fuel →
      readItems levels read fuel s = .ok (.arr (read.reverse ++ settledItems items), rest)
  | .members, levels, s, written, rest =>
    ∀ read fuel members, written = .obj members → 2 * s.length + 1 ≤ fuel →
      readFields levels read fuel s = .ok (.obj (settledMembers read members), rest)

theorem Spells.reads {part levels s written rest} (spelled : Spells part levels s written rest) :
    Reads part levels s written rest := by
  have gap (s : List Char) : (skipGap s).length ≤ s.length := length_skipGap_le
  induction spelled with
  | text ran =>
    intro fuel enough
    simp only [List.length_cons] at enough
    obtain ⟨fuel, rfl⟩ := Nat.exists_eq_add_one.mpr (by omega : 0 < fuel)
    exact readValue_ok_iff.mpr (.inl ⟨_, _, rfl, ran, rfl⟩)
  | atom ran =>
    intro fuel enough
    have taken := readAtom_takes ran
    obtain ⟨fuel, rfl⟩ := Nat.exists_eq_add_one.mpr (by omega : 0 < fuel)
    rw [taken.2]
    exact readValue_ok_iff.mpr (.inr (.inl ran))
  | noItems ends =>
    intro fuel enough
    simp only [List.length_cons] at enough
    obtain ⟨fuel, rfl⟩ := Nat.exists_eq_add_one.mpr (by omega : 0 < fuel)
    exact readValue_ok_iff.mpr (.inr (.inr (.inl ⟨_, _, rfl, rfl, .inl ⟨ends, rfl⟩⟩)))
  | @list _ s _ _ _ ih =>
    intro fuel enough
    simp only [List.length_cons] at enough
    obtain ⟨fuel, rfl⟩ := Nat.exists_eq_add_one.mpr (by omega : 0 < fuel)
    have := gap s
    have inside := ih [] fuel _ rfl (by omega)
    exact readValue_ok_iff.mpr (.inr (.inr (.inl ⟨_, _, rfl, rfl, .inr inside⟩)))
  | noMembers ends =>
    intro fuel enough
    simp only [List.length_cons] at enough
    obtain ⟨fuel, rfl⟩ := Nat.exists_eq_add_one.mpr (by omega : 0 < fuel)
    exact readValue_ok_iff.mpr (.inr (.inr (.inr ⟨_, _, rfl, rfl, .inl ⟨ends, rfl⟩⟩)))
  | @object _ s _ _ _ ih =>
    intro fuel enough
    simp only [List.length_cons] at enough
    obtain ⟨fuel, rfl⟩ := Nat.exists_eq_add_one.mpr (by omega : 0 < fuel)
    have := gap s
    have inside := ih [] fuel _ rfl (by omega)
    exact readValue_ok_iff.mpr (.inr (.inr (.inr ⟨_, _, rfl, rfl, .inr inside⟩)))
  | lastItem _ ends ih =>
    rintro read fuel _ ⟨⟩ enough
    obtain ⟨fuel, rfl⟩ := Nat.exists_eq_add_one.mpr (by omega : 0 < fuel)
    exact readItems_ok_iff.mpr ⟨_, _, ih fuel (by omega), .inl ⟨ends, rfl⟩⟩
  | @nextItem _ _ _ rest more _ _ first comma _ ih ihOthers =>
    rintro read fuel _ ⟨⟩ enough
    obtain ⟨fuel, rfl⟩ := Nat.exists_eq_add_one.mpr (by omega : 0 < fuel)
    have taken := first.takes
    have skipped := gap rest
    have skippedToo := gap more
    rw [comma, List.length_cons] at skipped
    refine readItems_ok_iff.mpr ⟨_, _, ih fuel (by omega), .inr ⟨more, comma, ?_⟩⟩
    rw [ihOthers _ fuel _ rfl (by omega)]
    simp [settledItems]
  | lastMember named _ ends ih =>
    rintro read fuel _ ⟨⟩ enough
    obtain ⟨fuel, rfl⟩ := Nat.exists_eq_add_one.mpr (by omega : 0 < fuel)
    have := named.takes
    exact readFields_ok_iff.mpr ⟨_, _, _, _, named, ih fuel (by omega), .inl ⟨ends, rfl⟩⟩
  | @nextMember _ _ _ _ _ rest more _ _ named first comma _ ih ihOthers =>
    rintro read fuel _ ⟨⟩ enough
    obtain ⟨fuel, rfl⟩ := Nat.exists_eq_add_one.mpr (by omega : 0 < fuel)
    have := named.takes
    have taken := first.takes
    have skipped := gap rest
    have skippedToo := gap more
    rw [comma, List.length_cons] at skipped
    refine readFields_ok_iff.mpr ⟨_, _, _, _, named, ih fuel (by omega), .inr ⟨more, comma, ?_⟩⟩
    exact ihOthers _ fuel _ rfl (by omega)

/-! ## Documents -/

/-- The text is a document that is written so, between blanks, and is nested no deeper than the reader goes. -/
def IsDocument (deepest : Nat) (text : String) (written : Json) : Prop :=
  ∃ rest, Spells .value deepest (skipGap text.toList) written rest ∧ skipGap rest = []

/-- The reader returns what the text is written as, as it is understood, and nothing else. -/
theorem read_ok_iff {deepest : Nat} {text : String} {value : Json} :
    read deepest text = .ok value ↔ ∃ written, IsDocument deepest text written ∧ written.settled = value := by
  rw [read, bind_ok_iff]
  constructor
  · rintro ⟨⟨first, rest⟩, ran, last⟩
    obtain ⟨written, spelled, rfl⟩ := (spells_of_read _).1 ran
    simp only [List.isEmpty_iff] at last
    split at last
    · rename_i ends
      cases last
      exact ⟨written, ⟨rest, spelled, ends⟩, rfl⟩
    · cases last
  · rintro ⟨written, ⟨rest, spelled, ends⟩, rfl⟩
    have skipped : (skipGap text.toList).length ≤ text.toList.length := length_skipGap_le
    rw [String.length_toList] at skipped
    refine ⟨(written.settled, rest), spelled.reads _ (by omega), ?_⟩
    simp [ends, pure, Except.pure]

end PltKeeper.Json
