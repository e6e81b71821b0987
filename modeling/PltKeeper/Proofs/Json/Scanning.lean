import PltKeeper.Proofs.Json.Members
import PltKeeper.Json.Reader
import Mathlib.Data.List.Basic
import Mathlib.Data.List.TakeDrop

/-! What a reader takes from the front of a text: each that succeeds takes a character at least, and a
word or a number is a plain value that begins with a mark of its own. -/
namespace PltKeeper.Json

variable {fuel : Nat} {s rest : List Char} {value : Json}

theorem length_skipGap_le : (skipGap s).length ≤ s.length := (List.dropWhile_sublist _).length_le

theorem readUnit_takes {unit : Nat} (ran : readUnit s = some (unit, rest)) : rest.length < s.length := by
  match s, ran with
  | a :: b :: c :: d :: tail, ran =>
    simp only [readUnit, Option.bind_eq_bind, Option.bind_eq_some_iff, Option.some.injEq, Prod.mk.injEq] at ran
    obtain ⟨_, _, _, _, _, _, _, _, _, rfl⟩ := ran
    simp only [List.length_cons]
    omega
  | [], ran | [_], ran | [_, _], ran | [_, _, _], ran => simp [readUnit] at ran

theorem readEscapedUnit_takes {c : Char} (ran : readEscapedUnit s = some (c, rest)) : rest.length < s.length := by
  rw [readEscapedUnit, Option.bind_eq_bind, Option.bind_eq_some_iff] at ran
  obtain ⟨⟨unit, tail⟩, first, ran⟩ := ran
  have taken := readUnit_takes first
  -- Either the escape ends after its own unit or it takes the low surrogate after it.
  suffices rest = tail ∨ ∃ low more, tail = '\\' :: 'u' :: more ∧ readUnit more = some (low, rest) by
    rcases this with rfl | ⟨low, more, rfl, second⟩
    · exact taken
    · have := readUnit_takes second
      simp only [List.length_cons] at taken
      omega
  grind

theorem readText_takes {read : List Char} {text : String} (ran : readText read fuel s = .ok (text, rest)) :
    rest.length < s.length := by
  fun_induction readText read fuel s with
  | case1 | case2 => simp at ran
  | case3 => cases ran; simp
  | case4 read fuel tail c more unit ih =>
    have := readEscapedUnit_takes unit
    have := ih ran
    simp only [List.length_cons]
    omega
  | case6 _ _ _ _ _ _ _ ih | case9 _ _ _ _ _ _ _ _ ih =>
    have := ih ran
    simp only [List.length_cons]
    omega
  | _ => simp at ran


theorem spanDigits_takes {digits : List Char} (ran : spanDigits s = (digits, rest)) :
    digits.length + rest.length = s.length := by
  rw [spanDigits, List.span_eq_takeWhile_dropWhile, Prod.mk.injEq] at ran
  rw [← ran.1, ← ran.2, ← List.length_append, List.takeWhile_append_dropWhile]

theorem spanFraction_takes : (spanFraction s).2.length ≤ s.length := by
  fun_cases spanFraction s with
  | case1 => exact Nat.le_refl _
  | case2 tail ds after split =>
    have := spanDigits_takes split
    simp only [List.length_cons]
    omega
  | case3 => exact Nat.le_refl _

theorem splitSign_takes : (Text.splitSign s).2.length ≤ s.length := by
  fun_cases Text.splitSign s <;> simp

theorem spanExponent_takes : (spanExponent s).2.length ≤ s.length := by
  fun_cases spanExponent s with
  | case2 e tail mark negative body sign ds after split =>
    have := spanDigits_takes split
    have := splitSign_takes (s := tail)
    simp only [sign] at this
    simp only [List.length_cons]
    omega
  | _ => exact Nat.le_refl _

theorem whole_takes {whole : List Char}
    (ran : (match s with
      | '0' :: rest => (['0'], rest)
      | s => spanDigits s) = (whole, rest)) :
    whole.length + rest.length = s.length := by
  split at ran
  · cases ran
    simp [Nat.add_comm]
  · exact spanDigits_takes ran

/-- A number takes a digit at least, and it is a plain value. -/
theorem readNumber_takes {negative : Bool} (ran : readNumber negative s = .ok (value, rest)) :
    rest.length < s.length ∧ value.settled = value := by
  revert ran
  fun_cases readNumber negative s with
  | case1 | case2 => simp
  | case3 whole afterWhole split digits fraction afterFraction fractionSplit exponent after exponentSplit
  | case4 whole afterWhole split digits fraction afterFraction fractionSplit exponent after exponentSplit =>
    intro ran
    have first := whole_takes split
    have second := spanFraction_takes (s := afterWhole)
    have third := spanExponent_takes (s := afterFraction)
    have some : 0 < whole.length := List.length_pos_iff.mpr (by simpa using digits)
    simp only [fractionSplit, exponentSplit] at second third
    cases ran
    exact ⟨by omega, rfl⟩

theorem words_plain : ∀ word ∈ words, word.1 ≠ [] ∧ word.2.settled = word.2 := by
  simp [words, settled]

/-- So does a word. -/
theorem readAtom_takes (ran : readAtom s = .ok (value, rest)) :
    rest.length < s.length ∧ value.settled = value := by
  revert ran
  fun_cases readAtom s with
  | case1 _ found ok =>
    rintro ⟨⟩
    obtain ⟨word, listed, taken⟩ := List.exists_of_findSome?_eq_some ok
    obtain ⟨tail, spelled, pair⟩ := Option.map_eq_some_iff.mp taken
    rw [List.isPrefixOf?_eq_some_iff_append_eq] at spelled
    cases pair
    have plain := words_plain word listed
    have := List.length_pos_iff.mpr plain.1
    exact ⟨by rw [← spelled, List.length_append]; omega, plain.2⟩
  | case2 _ tail =>
    intro ran
    have number := readNumber_takes ran
    exact ⟨by simp only [List.length_cons]; omega, number.2⟩
  | case3 => exact readNumber_takes

theorem readNumber_of_not_digit {negative : Bool} {c : Char} (other : c.isDigit = false) :
    readNumber negative (c :: rest) = .error .malformed := by
  have notZero : c ≠ '0' := by rintro rfl; simp at other
  simp [readNumber, spanDigits, List.span_eq_takeWhile_dropWhile, other, notZero]

/-- Neither begins as a text, a list or an object does, or with the end of a list. -/
theorem readAtom_of_mark {c : Char} (mark : c ∈ ['"', '[', '{', ']']) :
    readAtom (c :: rest) = .error .malformed := by
  simp only [List.mem_cons, List.not_mem_nil, or_false] at mark
  rcases mark with rfl | rfl | rfl | rfl <;>
    simp [readAtom, words, List.isPrefixOf?, readNumber_of_not_digit]

end PltKeeper.Json
