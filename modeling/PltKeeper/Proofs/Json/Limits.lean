import PltKeeper.Proofs.Json.Grammar

/-! What the limits of the reader say of a text. A fault that is not of the text's writing comes of its size:
a number that is too long stands in the text with all its digits, and lists and objects that are nested too
deeply open one after the other. A short text is read, or it is no document. -/
namespace PltKeeper.Json

/-- What a fault tells of the text in front of a reader that may go so many levels deep. -/
def Fault.Tells (levels : Nat) (s : List Char) : Fault → Prop
  | .malformed => True
  | .numberTooLong digits => Text.digitLimit < digits ∧ digits ≤ s.length
  | .tooDeep _ => levels < s.length

variable {levels inner fuel : Nat} {s rest : List Char} {fault : Fault}

/-- What is told of a part is told of the whole, in which it stands deeper. -/
theorem Fault.Tells.mono (tells : fault.Tells inner rest) (shorter : rest.length ≤ s.length)
    (deeper : levels + rest.length ≤ inner + s.length) : fault.Tells levels s := by
  cases fault with
  | malformed => trivial
  | numberTooLong digits => exact ⟨tells.1, Nat.le_trans tells.2 shorter⟩
  | tooDeep isObject =>
    simp only [Fault.Tells] at tells ⊢
    omega

/-- Of a part on the same level, only the length matters. -/
theorem Fault.Tells.of_le (tells : fault.Tells levels rest) (shorter : rest.length ≤ s.length) :
    fault.Tells levels s :=
  tells.mono shorter (Nat.add_le_add_left shorter _)

/-! ## The readers, one at a time -/

theorem readText_error {read : List Char} (failed : readText read fuel s = .error fault) : fault = .malformed := by
  fun_induction readText read fuel s <;> simp_all

theorem readNumber_error {negative : Bool} (failed : readNumber negative s = .error fault) : fault.Tells levels s := by
  revert failed
  fun_cases readNumber negative s with
  | case1 => rintro ⟨⟩; trivial
  | case2 whole afterWhole split digits fraction afterFraction fractionSplit exponent after exponentSplit plain long =>
    rintro ⟨⟩
    have taken := whole_takes split
    exact ⟨long, by omega⟩
  | case3 | case4 => simp

theorem readAtom_error (failed : readAtom s = .error fault) : fault.Tells levels s := by
  revert failed
  fun_cases readAtom s with
  | case1 => simp
  | case2 tail =>
    intro failed
    have tells : fault.Tells levels tail := readNumber_error failed
    exact tells.of_le (by simp)
  | case3 => exact readNumber_error

/-- A mark and the blanks around it take a character at least. -/
theorem skipMark_takes {c : Char} {more : List Char} (starts : skipGap rest = c :: more) :
    (skipGap more).length < rest.length := by
  have before : (skipGap rest).length ≤ rest.length := length_skipGap_le
  have after : (skipGap more).length ≤ more.length := length_skipGap_le
  rw [starts, List.length_cons] at before
  omega

/-- A fault inside a document tells of the text from where the reader began. -/
theorem tells_of_read (fuel : Nat) :
    (∀ {levels s fault}, readValue levels fuel s = .error fault → fault.Tells levels s) ∧
    (∀ {levels read s fault}, readItems levels read fuel s = .error fault → fault.Tells levels s) ∧
    (∀ {levels read s fault}, readFields levels read fuel s = .error fault → fault.Tells levels s) := by
  have gap (s : List Char) : (skipGap s).length ≤ s.length := length_skipGap_le
  -- What one reader leaves to the next is shorter than what it began with.
  have taken {levels fuel s value rest} (ran : readValue levels fuel s = .ok (value, rest)) :
      rest.length < s.length := by
    obtain ⟨written, spelled, -⟩ := (spells_of_read fuel).1 ran
    exact spelled.takes
  induction fuel with
  | zero =>
    refine ⟨?_, ?_, ?_⟩
    · rintro _ _ _ ⟨⟩; trivial
    · rintro _ _ _ _ ⟨⟩; trivial
    · rintro _ _ _ _ ⟨⟩; trivial
  | succ fuel ih =>
    obtain ⟨ofValue, ofItems, ofFields⟩ := ih
    refine ⟨fun {levels s fault} failed => ?value, fun {levels read s fault} failed => ?items,
      fun {levels read s fault} failed => ?fields⟩
    case value =>
      rw [readValue.eq_def] at failed
      simp only at failed
      split at failed
      · rename_i body
        rcases bind_error_iff.mp failed with text | ⟨found, -, ⟨⟩⟩
        rw [readText_error text]
        trivial
      · rename_i body
        have := gap body
        split at failed
        · cases failed
          simp only [Fault.Tells, List.length_cons]
          omega
        · split at failed
          · cases failed
          · exact (ofItems failed).mono (by simp only [List.length_cons]; omega) (by simp only [List.length_cons]; omega)
      · rename_i body
        have := gap body
        split at failed
        · cases failed
          simp only [Fault.Tells, List.length_cons]
          omega
        · split at failed
          · cases failed
          · exact (ofFields failed).mono (by simp only [List.length_cons]; omega) (by simp only [List.length_cons]; omega)
      · exact readAtom_error failed
    case items =>
      rw [readItems] at failed
      rcases bind_error_iff.mp failed with first | ⟨⟨item, rest⟩, first, failed⟩
      · exact ofValue first
      · have shorter := taken first
        dsimp only at failed
        split at failed
        · rename_i more comma
          have := skipMark_takes comma
          exact (ofItems failed).of_le (by omega)
        · cases failed
        · cases failed
          trivial
    case fields =>
      rw [readFields.eq_def] at failed
      simp only at failed
      split at failed
      · rename_i body
        rcases bind_error_iff.mp failed with text | ⟨⟨name, afterName⟩, text, failed⟩
        · rw [readText_error text]
          trivial
        · have := readText_takes text
          dsimp only at failed
          split at failed
          · rename_i more colon
            have := skipMark_takes colon
            rcases bind_error_iff.mp failed with first | ⟨⟨value, rest⟩, first, failed⟩
            · exact (ofValue first).of_le (by simp only [List.length_cons]; omega)
            · have := taken first
              dsimp only at failed
              split at failed
              · rename_i others comma
                have := skipMark_takes comma
                exact (ofFields failed).of_le (by simp only [List.length_cons]; omega)
              · cases failed
              · cases failed
                trivial
          · cases failed
            trivial
      · cases failed
        trivial

/-- A text that is no longer than the values may be nested and numbers may be long is a document, or it is not
written as one. -/
theorem malformed_of_length_le {deepest : Nat} {text : String} (flat : text.length ≤ deepest)
    (short : text.length ≤ Text.digitLimit) (failed : read deepest text = .error fault) : fault = .malformed := by
  have gap : (skipGap text.toList).length ≤ text.toList.length := length_skipGap_le
  rw [String.length_toList] at gap
  rcases bind_error_iff.mp failed with inside | ⟨⟨value, rest⟩, -, failed⟩
  · have tells : fault.Tells deepest (skipGap text.toList) := (tells_of_read _).1 inside
    cases fault with
    | malformed => rfl
    | numberTooLong digits =>
      simp only [Fault.Tells] at tells
      omega
    | tooDeep isObject =>
      simp only [Fault.Tells] at tells
      omega
  · dsimp only at failed
    split at failed <;> cases failed
    rfl

end PltKeeper.Json
