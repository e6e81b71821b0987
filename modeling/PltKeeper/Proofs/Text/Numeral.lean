import PltKeeper.Proofs.Text.Lines
import PltKeeper.Text.Numeral

/-! Reading whole numbers back. A text of digits, of whatever scripts, spells a number unless it is too
long, and a natural number is what its own decimal text spells. A character that only looks like a digit
spells nothing. -/
namespace PltKeeper.Text

variable {c : Char} {s : List Char}

theorem CodeRanges.covers_iff {ranges : CodeRanges} :
    ranges.covers c = true ↔ ∃ range ∈ ranges, range.1 ≤ c.toNat ∧ c.toNat ≤ range.2 := by
  simp [covers]

theorem isDigit_ascii_iff : c.isDigit = true ↔ 48 ≤ c.toNat ∧ c.toNat ≤ 57 := by
  simp only [Char.isDigit, Bool.and_eq_true, decide_eq_true_eq, ge_iff_le, UInt32.le_iff_toNat_le]
  exact Iff.rfl

theorem isDigit_iff : isDigit c = true ↔ ∃ z ∈ zeroDigits, z ≤ c.toNat ∧ c.toNat ≤ z + 9 := by
  simp [isDigit, digitValue?, Option.isSome_map, List.find?_isSome]

theorem isDigit_of_ascii (digit : c.isDigit = true) : isDigit c = true :=
  isDigit_iff.mpr ⟨0x30, by decide, isDigit_ascii_iff.mp digit⟩

theorem isDigitLike_of_isDigit (digit : isDigit c = true) : isDigitLike c = true := by
  simp [isDigitLike, digit]

theorem isBlank_of_apart (apart : ∀ range ∈ blankRanges, range.2 < c.toNat ∨ c.toNat < range.1) :
    isBlank c = false := by
  rw [isBlank, Bool.eq_false_iff]
  intro blank
  obtain ⟨range, member, within⟩ := CodeRanges.covers_iff.mp blank
  have := apart range member
  omega

theorem isBlank_of_ascii_digit (digit : c.isDigit = true) : isBlank c = false := by
  have := isDigit_ascii_iff.mp digit
  have outside : ∀ range ∈ blankRanges, range.2 < 48 ∨ 57 < range.1 := by decide
  refine isBlank_of_apart fun range member => ?_
  have := outside range member
  omega

/-- The digits of ASCII apart, none stands among its characters, and none is white space. -/
theorem zeroDigits_apart : ∀ z ∈ zeroDigits,
    z = 0x30 ∨ 127 ≤ z ∧ ∀ range ∈ blankRanges, range.2 < z ∨ z + 9 < range.1 := by decide

/-- What only looks like a digit is outside ASCII and no white space either. -/
theorem ornamentalDigits_apart : ∀ range ∈ ornamentalDigits,
    127 ≤ range.1 ∧ ∀ blank ∈ blankRanges, blank.2 < range.1 ∨ range.2 < blank.1 := by decide

/-! ## Digits in their ASCII spelling -/

theorem isDigit_digitChar : ∀ d < 10, (Nat.digitChar d).isDigit = true := by decide

theorem plainNumeralChar_of_ascii (digit : c.isDigit = true) : plainNumeralChar c = c := by
  have := isDigit_ascii_iff.mp digit
  exact if_pos (by omega)

/-- Every digit becomes the one of the ten that has its value. -/
theorem plainNumeralChar_of_digit (digit : isDigit c = true) :
    ∃ d < 10, digitValue? c = some d ∧ plainNumeralChar c = Nat.digitChar d := by
  obtain ⟨z, zero, low, high⟩ := isDigit_iff.mp digit
  rcases zeroDigits_apart z zero with rfl | ⟨outside, visible⟩
  · have spelled : c = Nat.digitChar (c.toNat - 48) := by
      apply Char.toNat_inj.mp
      rw [Nat.toNat_digitChar_of_lt_ten (by omega)]
      omega
    refine ⟨c.toNat - 48, by omega, by simp [digitValue?, zeroDigits, low, high], ?_⟩
    rw [plainNumeralChar_of_ascii (isDigit_ascii_iff.mpr ⟨low, high⟩), ← spelled]
  · have notBlank : isBlank c = false := isBlank_of_apart fun range member => by
      have := visible range member
      omega
    obtain ⟨d, value⟩ := Option.isSome_iff_exists.mp digit
    refine ⟨d, ?_, value, ?_⟩
    · obtain ⟨w, found, rfl⟩ := Option.map_eq_some_iff.mp value
      have near := List.find?_some found
      simp only [Bool.and_eq_true, decide_eq_true_eq] at near
      omega
    · rw [plainNumeralChar, if_neg (by omega), notBlank, if_neg (by decide), value]

theorem isDigit_plainNumeralChar (digit : isDigit c = true) : (plainNumeralChar c).isDigit = true := by
  obtain ⟨d, small, -, spelled⟩ := plainNumeralChar_of_digit digit
  rw [spelled]
  exact isDigit_digitChar d small

/-- What only looks like a digit becomes a question mark. -/
theorem plainNumeralChar_ornamental (like : isDigitLike c = true) (other : isDigit c = false) :
    plainNumeralChar c = '?' := by
  have covered : ornamentalDigits.covers c = true := by simpa [isDigitLike, other] using like
  obtain ⟨range, member, low, high⟩ := CodeRanges.covers_iff.mp covered
  obtain ⟨outside, visible⟩ := ornamentalDigits_apart range member
  have notBlank : isBlank c = false := isBlank_of_apart fun spaces member => by
    have := visible spaces member
    omega
  have none : digitValue? c = none := Option.not_isSome_iff_eq_none.mp (by simpa [isDigit] using other)
  rw [plainNumeralChar, if_neg (by omega), notBlank, if_neg (by decide), none]

/-- A character of a text that looks like a number, in its ASCII spelling. -/
theorem plainNumeralChar_cases (like : isDigitLike c = true) :
    (plainNumeralChar c).isDigit = true ∨ plainNumeralChar c = '?' := by
  cases digit : isDigit c with
  | true => exact .inl (isDigit_plainNumeralChar digit)
  | false => exact .inr (plainNumeralChar_ornamental like digit)

/-- Nothing is taken off a text without padding. -/
theorem plainNumeral_of_bare (bare : ∀ c ∈ s, isPadding (plainNumeralChar c) = false) :
    plainNumeral s = s.map plainNumeralChar := by
  have front : (s.map plainNumeralChar).dropWhile isPadding = s.map plainNumeralChar := by
    cases s with
    | nil => rfl
    | cons c rest =>
      rw [List.map_cons, List.dropWhile_cons_of_neg]
      simp [bare c List.mem_cons_self]
  rw [plainNumeral, front]
  refine dropEndWhile_eq_self fun d last => ?_
  obtain ⟨c, member, rfl⟩ := List.mem_map.mp (List.mem_of_getLast? last)
  exact bare c member

/-- A text that looks like a number has no padding in it. -/
theorem bare_of_digitLike (like : ∀ c ∈ s, isDigitLike c = true) :
    ∀ c ∈ s, isPadding (plainNumeralChar c) = false := by
  intro c member
  rcases plainNumeralChar_cases (like c member) with digit | mark
  · have := isDigit_ascii_iff.mp digit
    have notSpace : plainNumeralChar c ≠ ' ' := by
      intro space
      rw [space] at digit
      exact nomatch digit
    simp only [isPadding, notSpace, decide_false, Bool.false_or, Bool.and_eq_false_iff, decide_eq_false_iff_not]
    omega
  · rw [mark]
    rfl

/-- A text that looks like a number has nothing around it, and no sign in front. -/
theorem splitSign_plainNumeral (like : ∀ c ∈ s, isDigitLike c = true) :
    splitSign (plainNumeral s) = (false, s.map plainNumeralChar) := by
  rw [plainNumeral_of_bare (bare_of_digitLike like)]
  cases s with
  | nil => rfl
  | cons c rest =>
    rw [List.map_cons]
    rcases plainNumeralChar_cases (like c List.mem_cons_self) with digit | mark
    · unfold splitSign
      split
      · rename_i minus
        rw [(List.cons.inj minus).1] at digit
        exact nomatch digit
      · rename_i plus
        rw [(List.cons.inj plus).1] at digit
        exact nomatch digit
      · rfl
    · rw [mark]
      rfl

/-! ## Runs of digits -/

theorem digitRun_of_digits (digits : ∀ c ∈ s, c.isDigit = true) (after : Bool) : digitRun after s = (s, []) := by
  induction s generalizing after with
  | nil => rfl
  | cons c rest ih =>
    obtain ⟨digit, digits⟩ := List.forall_mem_cons.mp digits
    rw [digitRun, if_pos digit, ih digits]
    rintro _ _ rfl
    exact nomatch digit

/-- A text of digits spells a number, unless it has too many of them. -/
theorem readInt_of_digits (some : s ≠ []) (digits : ∀ c ∈ s, isDigit c = true) :
    readInt s = if digitLimit < s.length then .error (.tooLong s.length)
      else .ok (ofDigits (s.map plainNumeralChar)) := by
  have like : ∀ c ∈ s, isDigitLike c = true := fun c member => isDigitLike_of_isDigit (digits c member)
  have plain : ∀ d ∈ s.map plainNumeralChar, d.isDigit = true :=
    List.forall_mem_map.mpr fun c member => isDigit_plainNumeralChar (digits c member)
  simp [readInt, splitSign_plainNumeral like, digitRun_of_digits plain, some]

/-- With a minus in front they spell the number below zero. -/
theorem readInt_minus (some : s ≠ []) (digits : ∀ c ∈ s, isDigit c = true) (short : s.length ≤ digitLimit) :
    readInt ('-' :: s) = .ok (-(ofDigits (s.map plainNumeralChar) : Int)) := by
  have like : ∀ c ∈ s, isDigitLike c = true := fun c member => isDigitLike_of_isDigit (digits c member)
  have plain : ∀ d ∈ s.map plainNumeralChar, d.isDigit = true :=
    List.forall_mem_map.mpr fun c member => isDigit_plainNumeralChar (digits c member)
  have spelled : plainNumeral ('-' :: s) = '-' :: s.map plainNumeralChar :=
    plainNumeral_of_bare (List.forall_mem_cons.mpr ⟨by decide, bare_of_digitLike like⟩)
  simp [readInt, spelled, splitSign, digitRun_of_digits plain, some, short]

theorem isDigit_of_mem_toDigits {n : Nat} (member : c ∈ Nat.toDigits 10 n) : isDigit c = true :=
  isDigit_of_ascii (Nat.isDigit_of_mem_toDigits (by decide) (by decide) member)

theorem ofDigits_toDigits (n : Nat) : ofDigits ((Nat.toDigits 10 n).map plainNumeralChar) = n := by
  have same : (Nat.toDigits 10 n).map plainNumeralChar = Nat.toDigits 10 n :=
    (List.map_congr_left fun c member => plainNumeralChar_of_ascii
      (Nat.isDigit_of_mem_toDigits (by decide) (by decide) member)).trans (List.map_id _)
  have read := Nat.ofDigitChars_ten_toDigits (n := n)
  rw [same]
  rwa [Nat.ofDigitChars_eq_foldl] at read

/-- A natural number is what its decimal digits spell. -/
theorem readInt_toDigits {n : Nat} (short : (Nat.toDigits 10 n).length ≤ digitLimit) :
    readInt (Nat.toDigits 10 n) = .ok n := by
  rw [readInt_of_digits Nat.toDigits_ne_nil fun _ => isDigit_of_mem_toDigits, if_neg (by omega), ofDigits_toDigits]

theorem toList_toString (n : Nat) : (toString (n : Int)).toList = Nat.toDigits 10 n := by
  show (toString n).toList = _
  rw [Nat.toString_eq_ofList_toDigits, String.toList_ofList]

theorem toList_toString_negSucc (n : Nat) : (toString (Int.negSucc n)).toList = '-' :: Nat.toDigits 10 (n + 1) := by
  show ("-" ++ toString (n + 1)).toList = _
  rw [String.toList_append, show (toString (n + 1)).toList = _ from toList_toString (n + 1)]
  rfl

/-- A whole number is what its text spells. -/
theorem readInt_toString {n : Int} (short : (Nat.toDigits 10 n.natAbs).length ≤ digitLimit) :
    readInt (toString n).toList = .ok n := by
  cases n with
  | ofNat n => exact toList_toString n ▸ readInt_toDigits short
  | negSucc n =>
    have short : (Nat.toDigits 10 (n + 1)).length ≤ digitLimit := short
    rw [toList_toString_negSucc, readInt_minus Nat.toDigits_ne_nil (fun _ => isDigit_of_mem_toDigits) short,
      ofDigits_toDigits]
    rfl

end PltKeeper.Text
