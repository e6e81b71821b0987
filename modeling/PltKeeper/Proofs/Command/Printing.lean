import PltKeeper.Command.Machine
import PltKeeper.Proofs.Console.Layout
import PltKeeper.Proofs.Console.Markup
import PltKeeper.Proofs.Text.Numeral
import PltKeeper.Proofs.Text.Surrogate

/-! What parts of a command print. A text is printed unless it holds a half of a surrogate pair that the output does
not take, and then nothing of it is. White space does not matter for that, so neither does how a text is laid out;
nor do pictures, which hold no halves. A part of a command that prints at most adds to what has been printed, whether
it fails or not. -/
namespace PltKeeper.Command

open Console Text

variable {α β : Type} {screen : Screen} {s s' : State} {text shown : String} {cs cs' : List Char}

/-! ## Texts that can be printed -/

/-- The output takes every half of a surrogate pair in a text. -/
def Printable (screen : Screen) (cs : List Char) : Prop := ∀ c ∈ cs, isHalf c = true → screen.takes c = true

theorem unprintable?_eq_none_iff : unprintable? screen text = none ↔ Printable screen text.toList := by
  rw [unprintable?, fault?_eq_none_iff]
  simp [Printable]

theorem printable_append : Printable screen (cs ++ cs') ↔ Printable screen cs ∧ Printable screen cs' :=
  List.forall_mem_append

theorem printable_of_whole (whole : ∀ c ∈ cs, isHalf c = false) : Printable screen cs := by
  intro c member half
  rw [whole c member] at half
  cases half

theorem printable_of_all (whole : (cs.all fun c => !isHalf c) = true) : Printable screen cs :=
  printable_of_whole fun c member => Bool.not_eq_true' _ ▸ List.all_eq_true.mp whole c member

theorem Printable.of_sublist (printable : Printable screen cs) (part : cs'.Sublist cs) : Printable screen cs' :=
  fun c member => printable c (part.subset member)

theorem printable_of_encodable (encodable : IsEncodable text) : Printable screen text.toList :=
  printable_of_whole encodable

theorem isDigit_of_mem_toString {n : Nat} {c : Char} (member : c ∈ (toString n).toList) : c.isDigit = true := by
  have digits : (toString n).toList = Nat.toDigits 10 n := by
    show (String.ofList (Nat.toDigits 10 n)).toList = _
    rw [String.toList_ofList]
  exact Nat.isDigit_of_mem_toDigits (by decide) (by decide) (digits ▸ member)

theorem narrow_toString (n : Nat) : Narrow (toString n).toList := by
  intro c member
  have digit := isDigit_of_mem_toString member
  simp only [Char.isDigit, Bool.and_eq_true, decide_eq_true_eq, ge_iff_le, UInt32.le_iff_toNat_le] at digit
  change 48 ≤ c.toNat ∧ c.toNat ≤ 57 at digit
  omega

theorem printable_of_narrow (narrow : Narrow cs) : Printable screen cs := by
  refine printable_of_whole fun c member => ?_
  have low : ¬ firstHalf ≤ c.toNat := by
    have := narrow c member
    unfold firstHalf
    omega
  rw [isHalf, decide_eq_false low, Bool.false_and]

theorem isBlank_half {c : Char} (half : isHalf c = true) : isBlank c = false := by
  unfold isHalf firstHalf at half
  simp only [Bool.and_eq_true, decide_eq_true_eq] at half
  by_contra blank
  obtain ⟨range, listed, inside⟩ := CodeRanges.covers_iff.mp (Bool.not_eq_false _ ▸ blank)
  have low : range.2 < 0x10f000 := (by decide : ∀ range ∈ blankRanges, range.2 < 0x10f000) range listed
  omega

/-- White space can always be printed. -/
theorem printable_visible : Printable screen (visible cs) ↔ Printable screen cs := by
  refine ⟨fun printable c member half => ?_, fun printable => printable.of_sublist List.filter_sublist⟩
  refine printable c (List.mem_filter.mpr ⟨member, ?_⟩) half
  simp [isBlank_half half]

theorem Printable.of_wrap (printable : Printable screen cs) :
    Printable screen (printed (wrap screen.width cs)).toList := by
  rw [← printable_visible, visible_printed]
  exact (printable_visible.mpr printable).of_sublist (visible_wrap_sublist screen.width cs)

theorem Printable.pictured (printable : Printable screen cs) : Printable screen (sanitized (screen.shown cs)) := by
  refine Printable.of_sublist (fun c member half => printable c ?_ half) List.filter_sublist
  have most := screen.count_shown_le cs (.inr (.inr (.inr half)))
  exact List.count_pos_iff.mp (Nat.lt_of_lt_of_le (List.count_pos_iff.mpr member) most)

/-- What is shown without markup can be printed if its text can. -/
theorem Printable.literal (printable : Printable screen text.toList) :
    Printable screen (Console.literal screen text).toList := printable.pictured.of_wrap

theorem printable_printed {lines : List (List Char)} :
    Printable screen (printed lines).toList ↔ ∀ line ∈ lines, Printable screen line := by
  rw [← printable_visible, visible_printed, printable_visible]
  simp only [Printable, List.mem_flatten, forall_exists_index, and_imp]
  exact ⟨fun all line member c inLine => all c line member inLine,
    fun all c line member inLine => all line member c inLine⟩

/-- A frame around a text holds no halves. -/
theorem Printable.framed (printable : Printable screen cs) (width : Nat) :
    Printable screen (printed (panel width cs)).toList := by
  have row (n : Nat) (c : Char) (whole : isHalf c = false) : Printable screen (List.replicate n c) :=
    printable_of_whole fun d member => List.eq_of_mem_replicate member ▸ whole
  have inside (width : Nat) : ∀ line ∈ wrap width cs, Printable screen line := by
    intro line member
    refine printable_visible.mp ((printable_visible.mpr printable).of_sublist ?_)
    exact ((List.sublist_flatten_of_mem member).filter _).trans (visible_wrap_sublist width cs)
  refine printable_printed.mpr fun line member => ?_
  simp only [panel, List.mem_cons, List.mem_append, List.mem_map, List.not_mem_nil, or_false] at member
  rcases member with (rfl | ⟨line, member, rfl⟩) | rfl
  · have corner : Printable screen ['╭'] := printable_of_all (by decide)
    exact printable_append.mpr ⟨printable_append.mpr ⟨corner, row _ _ (by decide)⟩, printable_of_all (by decide)⟩
  · refine printable_append.mpr ⟨printable_append.mpr ⟨printable_append.mpr ⟨?_, inside _ line member⟩, ?_⟩, ?_⟩
    · exact printable_of_all (by decide)
    · exact row _ _ (by decide)
    · exact printable_of_all (by decide)
  · have corner : Printable screen ['╰'] := printable_of_all (by decide)
    exact printable_append.mpr ⟨printable_append.mpr ⟨corner, row _ _ (by decide)⟩, printable_of_all (by decide)⟩

theorem print_of_printable (printable : Printable screen text.toList) (s : State) :
    print screen text s = .ok () { s with out := s.out ++ text } := by
  rw [print, unprintable?_eq_none_iff.mpr printable]

/-- Of a text that cannot be printed nothing is. -/
theorem print_of_unprintable (unprintable : ¬ Printable screen text.toList) (s : State) :
    ∃ fault, print screen text s = .error (.notEncodable fault encodingAdvice) s := by
  cases found : unprintable? screen text with
  | none => exact absurd (unprintable?_eq_none_iff.mp found) unprintable
  | some fault => exact ⟨fault, by rw [print, found]⟩

/-! ## Messages -/

/-- A message that is rendered without a fault is what its parts show, laid out. -/
theorem message_of_shown (screen : Screen) (renders : Renders (parts text.toList)) : message screen text =
    .ok (printed (wrap screen.width ((parts text.toList).flatMap (Part.shown screen)))) := by
  obtain ⟨r, rendered, sound, whole⟩ := render_of_renders screen renders
  simp only [message, rendered, bind, Except.bind, sound.checkStyles, whole]
  rfl

/-- A message is printed that is rendered without a fault and shows no halves. -/
theorem printMessage_of_renders (screen : Screen) (renders : Renders (parts text.toList))
    (printable : Printable screen ((parts text.toList).flatMap (Part.shown screen))) (s : State) :
    ∃ shown, printMessage screen (message screen text) s = .ok () { s with out := s.out ++ shown } :=
  ⟨_, by rw [message_of_shown screen renders]; exact print_of_printable printable.of_wrap s⟩

/-! ## Parts of a command that print -/

/-- From the first state a part of a command comes to the second one, whether it fails or not. -/
def Step.Leaves (step : Step α) (s s' : State) : Prop := (∃ a, step s = .ok a s') ∨ ∃ e, step s = .error e s'

/-- A part of a command that prints at most. -/
def Step.Prints (step : Step α) : Prop := ∀ s, ∃ more, step.Leaves s { s with out := s.out ++ more }

theorem Step.Prints.bind {step : Step α} {next : α → Step β} (first : step.Prints) (second : ∀ a, (next a).Prints) :
    Step.Prints (step >>= next) := by
  intro s
  obtain ⟨more, ⟨a, ran⟩ | ⟨e, failed⟩⟩ := first s
  · obtain ⟨rest, left⟩ := second a { s with out := s.out ++ more }
    refine ⟨more ++ rest, ?_⟩
    rw [← String.append_assoc]
    simpa only [Step.Leaves, Bind.bind, EStateM.bind, ran] using left
  · exact ⟨more, .inr ⟨e, by simp only [Bind.bind, EStateM.bind, failed]⟩⟩

end PltKeeper.Command
