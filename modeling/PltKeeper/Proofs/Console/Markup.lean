import PltKeeper.Console.Markup
import PltKeeper.Proofs.Traversal
import PltKeeper.Proofs.Console.Screen
import PltKeeper.Proofs.Text.Columns
import Mathlib.Data.Bool.AllAny
import Mathlib.Data.List.TakeDrop

/-! What markup does to a text that was not written as markup. A tag in it is taken out, wherever it stands, and a
backslash before a bracket is, too. Both are seen, and nothing is shown in their place: so what is shown of a text
weighs less than the text, backslashes and brackets being the weights, unless there is none of either in it. The
pictures that a screen shows for codes weigh nothing. -/
namespace PltKeeper.Console

open PltKeeper.Text

variable {s t text before body after tail : List Char} {position fuel : Nat} {screen : Screen}

/-! ## Tags -/

theorem tagRest_eq_some_iff : tagRest s = some (body, after) ↔ s = body ++ ']' :: after ∧ ']' ∉ body ∧ '[' ∉ body := by
  induction s generalizing body with
  | nil => simp [tagRest]
  | cons c s ih =>
    by_cases closes : c = ']'
    · subst closes
      cases body <;> simp [tagRest]
      exact fun same _ other => absurd same other
    by_cases opens : c = '['
    · subst opens
      cases body <;> simp [tagRest]
      exact fun same _ _ _ other => absurd same other
    rw [tagRest.eq_4 _ _ closes opens]
    cases body with
    | nil => simp [closes]
    | cons d body =>
      constructor
      · intro read
        obtain ⟨⟨_, _⟩, read, same⟩ := Option.map_eq_some_iff.mp read
        cases same
        obtain ⟨rfl, noClose, noOpen⟩ := ih.mp read
        exact ⟨rfl, by simp [Ne.symm closes, noClose], by simp [Ne.symm opens, noOpen]⟩
      · rintro ⟨same, noClose, noOpen⟩
        cases same
        rw [List.mem_cons, not_or] at noClose noOpen
        rw [ih.mpr ⟨rfl, noClose.2, noOpen.2⟩]
        rfl

theorem tag?_cons {c : Char} {rest : List Char} (begins : beginsTag c = true) :
    tag? ('[' :: c :: rest) = (tagRest rest).map fun found => (c :: found.1, found.2) := by
  rw [tag?, if_pos begins]

/-- A tag stands between brackets, with none in it, and begins with a character with which a tag may. -/
theorem tag?_eq_some_iff : tag? s = some (body, after) ↔
    s = '[' :: (body ++ ']' :: after) ∧ body.head?.any beginsTag = true ∧ ']' ∉ body ∧ '[' ∉ body := by
  constructor
  · intro found
    unfold tag? at found
    split at found
    · rename_i c rest
      split at found
      · rename_i begins
        obtain ⟨⟨inner, _⟩, read, same⟩ := Option.map_eq_some_iff.mp found
        cases same
        obtain ⟨rfl, noClose, noOpen⟩ := tagRest_eq_some_iff.mp read
        have notClose : c ≠ ']' := by rintro rfl; exact absurd begins (by decide)
        have notOpen : c ≠ '[' := by rintro rfl; exact absurd begins (by decide)
        exact ⟨rfl, by simpa using begins, by simp [notClose.symm, noClose], by simp [notOpen.symm, noOpen]⟩
      · exact nomatch found
    · exact nomatch found
  · rintro ⟨rfl, begins, noClose, noOpen⟩
    cases body with
    | nil => exact nomatch begins
    | cons c body =>
      rw [List.mem_cons, not_or] at noClose noOpen
      rw [List.cons_append, tag?_cons (by simpa using begins), tagRest_eq_some_iff.mpr ⟨rfl, noClose.2, noOpen.2⟩]
      rfl

/-- Nothing in a text is a tag, and no bracket has a backslash before it. -/
structure Unmarked (s : List Char) : Prop where
  tagless : ∀ c body, '[' :: c :: (body ++ [']']) <:+: s → beginsTag c = true → '[' ∈ body
  unescaped : ¬ ['\\', '['] <:+: s

/-- A text has no tag in it just if none begins at any of its characters. -/
theorem tagless_iff : (∀ c body, '[' :: c :: (body ++ [']']) <:+: s → beginsTag c = true → '[' ∈ body) ↔
    ∀ rest, rest <:+ s → tag? rest = none := by
  constructor
  · rintro tagless rest ⟨front, rfl⟩
    cases found : tag? rest with
    | none => rfl
    | some tag =>
      obtain ⟨rfl, begins, -, noOpen⟩ := tag?_eq_some_iff.mp found
      cases body : tag.1 with
      | nil => simp [body] at begins
      | cons c body' =>
        rw [body] at begins noOpen tagless
        refine absurd (tagless c body' ⟨front, tag.2, by simp⟩ (by simpa using begins)) fun opens => ?_
        exact noOpen (List.mem_cons_of_mem c opens)
  · rintro none c body ⟨front, back, rfl⟩ begins
    by_contra noOpen
    -- The tag ends at the first bracket that closes.
    have closes : ']' ∈ body ++ [']'] := List.mem_concat_self
    obtain ⟨inner, rest, whole, noClose⟩ := List.eq_append_cons_of_mem closes
    have noOpen : '[' ∉ inner := by
      intro opens
      have inBody : '[' ∈ body ++ [']'] := by
        rw [whole]
        exact List.mem_append_left _ opens
      simp [noOpen] at inBody
    have joined : inner ++ ']' :: (rest ++ back) = body ++ ']' :: back := by simpa using congrArg (· ++ back) whole.symm
    have read := none ('[' :: c :: (inner ++ ']' :: (rest ++ back))) ⟨front, by simp [joined]⟩
    rw [tag?_cons begins, tagRest_eq_some_iff.mpr ⟨rfl, noClose, noOpen⟩] at read
    exact nomatch read

/-! ## Weights -/

/-- Backslashes weigh more than the brackets that may be shown in their place. -/
def weight (s : List Char) : Nat := 2 * s.count '\\' + s.count '['

/-- What is shown of a part. -/
def Part.shown (screen : Screen) : Part → List Char
  | .plain text => sanitized (screen.shown (unescaped text))
  | .tag _ _ => []

/-- What may follow a text: nothing, or a tag first of all. -/
def Closing (tail : List Char) : Prop := tail = [] ∨ tag? tail ≠ none

/-- What adds nothing to a text that it follows: nothing, or a single tag. -/
def Silent (tail : List Char) : Prop := tail = [] ∨ ∃ body, tag? tail = some (body, []) ∧ weight body = 0

theorem Silent.closing (silent : Silent tail) : Closing tail :=
  silent.imp id fun ⟨_, closes, _⟩ none => nomatch none.symm.trans closes

theorem Closing.head (closing : Closing tail) : ∀ c ∈ tail.head?, c = '[' := by
  rcases closing with rfl | closes
  · exact fun _ none => nomatch none
  · obtain ⟨⟨body, after⟩, found⟩ := Option.ne_none_iff_exists'.mp closes
    obtain ⟨rfl, -⟩ := tag?_eq_some_iff.mp found
    rintro _ ⟨⟩
    rfl

/-- What follows the backslashes at the front. -/
def behindSlashes (s : List Char) : List Char := s.dropWhile (· = '\\')

/-- How many backslashes are at the front. -/
def frontSlashes (s : List Char) : Nat := (s.takeWhile (· = '\\')).length

theorem Closing.slashes (closing : Closing tail) : behindSlashes tail = tail ∧ frontSlashes tail = 0 := by
  cases tail with
  | nil => exact ⟨rfl, rfl⟩
  | cons c tail =>
    obtain rfl := closing.head c rfl
    exact ⟨rfl, rfl⟩

/-- A tag begins in a text, or a backslash at its end escapes the one that follows. -/
inductive Touched (tail text : List Char) : Prop
  | tag (rest : List Char) (part : rest <:+ text) (found : tag? rest ≠ none)
  | escape (closes : tail ≠ []) (ends : ['\\'] <:+ text)

theorem Touched.cons (touched : Touched tail text) (c : Char) : Touched tail (c :: text) := by
  have later : text <:+ c :: text := List.suffix_cons c text
  cases touched with
  | tag rest part found => exact .tag rest (part.trans later) found
  | escape closes ends => exact .escape closes (ends.trans later)

theorem untouched_iff : ¬ Touched tail text ↔
    (∀ rest, rest <:+ text → tag? rest = none) ∧ (tail ≠ [] → ¬ ['\\'] <:+ text) := by
  refine ⟨fun untouched => ⟨fun rest part => ?_, fun closes ends => untouched (.escape closes ends)⟩, ?_⟩
  · by_contra found
    exact untouched (.tag rest part found)
  · rintro ⟨none, last⟩ touched
    cases touched with
    | tag rest part found => exact found (none rest part)
    | escape closes ends => exact last closes ends

theorem Unmarked.untouched (unmarked : Unmarked text) (last : tail ≠ [] → ¬ ['\\'] <:+ text) : ¬ Touched tail text :=
  untouched_iff.mpr ⟨tagless_iff.mp unmarked.tagless, last⟩

/-- What is read is shown after what was. -/
theorem shown_of_step {part : Part} {r r' : Rendering} (done : r.step screen part = .ok r') :
    r'.shown = r.shown ++ part.shown screen := by
  cases part with
  | plain text =>
    cases done
    rfl
  | tag start body =>
    have done : r.applyTag start body = .ok r' := done
    unfold Rendering.applyTag at done
    split at done
    · obtain ⟨_, -, done⟩ := bind_ok_iff.mp done
      obtain ⟨_, -, done⟩ := bind_ok_iff.mp done
      cases done
      exact (List.append_nil _).symm
    · obtain ⟨_, -, done⟩ := bind_ok_iff.mp done
      cases done
      exact (List.append_nil _).symm

theorem shown_of_foldlM {parts : List Part} {r r' : Rendering} (done : parts.foldlM (Rendering.step screen) r = .ok r') :
    r'.shown = r.shown ++ parts.flatMap (Part.shown screen) := by
  induction parts generalizing r with
  | nil =>
    cases done
    exact (List.append_nil _).symm
  | cons part parts ih =>
    rw [List.foldlM_cons] at done
    obtain ⟨middle, here, later⟩ := bind_ok_iff.mp done
    rw [ih later, shown_of_step here, List.flatMap_cons, List.append_assoc]

/-- A word that names a style in tags, under which the style is known. -/
structure IsStyle (name : String) : Prop where
  begins : name.toList.head?.any beginsTag = true
  opens : name.toList.head? ≠ some '/'
  plain : ∀ c ∈ name.toList, c ≠ ']' ∧ c ≠ '[' ∧ c ≠ '=' ∧ c ≠ '\\'
  stripped : Text.strip name.toList = name.toList
  canonical : Style.canonicalName name.toList = .ok name
  sound : Style.checkApplied name.toList = .ok ()

namespace IsStyle

variable {name : String} (named : IsStyle name)
include named

theorem splitTag_eq (front : List Char) (plain : '=' ∉ front) :
    splitTag (front ++ name.toList) = (front ++ name.toList, none) := by
  have none : '=' ∉ front ++ name.toList := by
    rw [List.mem_append, not_or]
    exact ⟨plain, fun equals => (named.plain _ equals).2.2.1 rfl⟩
  have all : (front ++ name.toList).takeWhile (· ≠ '=') = front ++ name.toList :=
    List.takeWhile_eq_self_iff.mpr fun c member => decide_eq_true fun same => none (same ▸ member)
  simp only [splitTag, all, List.contains_iff_mem, none, if_false]

theorem applyTag_opening (r : Rendering) (start : Nat) :
    r.applyTag start name.toList = .ok { r with opened := ⟨r.shown.length, name, none⟩ :: r.opened } := by
  have split := named.splitTag_eq [] nofun
  rw [List.nil_append] at split
  unfold Rendering.applyTag
  rw [split]
  split
  · rename_i rest _ same
    exact absurd (by rw [(Prod.mk.inj same).1]; rfl) named.opens
  · rename_i same
    cases same
    rw [named.canonical]
    rfl

theorem applyTag_closing {r : Rendering} {position : Nat} {opened : List OpenTag} (start : Nat)
    (top : r.opened = ⟨position, name, none⟩ :: opened) : r.applyTag start ('/' :: name.toList) =
      .ok { r with opened := opened, spans := ⟨position, r.shown.length, name.toList⟩ :: r.spans } := by
  have split := named.splitTag_eq ['/'] (by decide)
  have some : name.toList.isEmpty = false := by
    cases chars : name.toList with
    | nil => simpa [chars] using named.begins
    | cons c rest => rfl
  unfold Rendering.applyTag
  rw [show '/' :: name.toList = ['/'] ++ name.toList from rfl, split]
  simp only [List.singleton_append, named.stripped, closing, some, named.canonical, top, takeOpen?, OpenTag.check,
    OpenTag.span, if_true, if_false, bind, Except.bind, pure, Except.pure, Bool.false_eq_true]
  simp

end IsStyle

/-- A rendering without open tags, whose styles can be applied. -/
structure Rendering.Sound (r : Rendering) : Prop where
  closed : r.opened = []
  applied : ∀ span ∈ r.spans, Style.checkApplied span.style = .ok ()

/-- Styles that can be applied are applied, however the text is cut. -/
theorem Rendering.Sound.checkStyles {r : Rendering} (sound : r.Sound) (cut : Bool) : r.checkStyles cut = .ok () := by
  have each : ∀ span ∈ r.allSpans.filter (r.survives cut), Style.checkApplied span.style = .ok () := by
    intro span member
    have member := List.mem_mergeSort.mp (List.mem_of_mem_filter member)
    rw [sound.closed] at member
    exact sound.applied span (by simpa using member)
  unfold Rendering.checkStyles
  generalize r.allSpans.filter (r.survives cut) = spans at each
  induction spans with
  | nil => rfl
  | cons span spans ih =>
    obtain ⟨here, later⟩ := List.forall_mem_cons.mp each
    show (do Style.checkApplied span.style; spans.forM fun span => Style.checkApplied span.style) = .ok ()
    rw [here]
    exact ih later

/-- Parts that are rendered without a fault and leave no tag open. -/
def Renders (parts : List Part) : Prop :=
  ∀ screen, ∀ r : Rendering, r.Sound → ∃ r', parts.foldlM (Rendering.step screen) r = .ok r' ∧ r'.Sound

theorem Renders.append {first second : List Part} (one : Renders first) (two : Renders second) :
    Renders (first ++ second) := by
  intro screen r sound
  obtain ⟨middle, here, sound⟩ := one screen r sound
  obtain ⟨r', later, sound⟩ := two screen middle sound
  refine ⟨r', ?_, sound⟩
  rw [List.foldlM_append, here]
  exact later

theorem foldlM_flush (before : List Char) (r : Rendering) :
    ∃ r', (flush before).foldlM (Rendering.step screen) r = .ok r' ∧ r'.opened = r.opened ∧ r'.spans = r.spans := by
  unfold flush
  split
  · exact ⟨r, rfl, rfl, rfl⟩
  · exact ⟨_, rfl, rfl, rfl⟩

theorem renders_flush (before : List Char) : Renders (flush before) := by
  intro screen r sound
  obtain ⟨r', shown, opened, spans⟩ := foldlM_flush before r
  exact ⟨r', shown, by rw [opened, sound.closed], by rw [spans]; exact sound.applied⟩

/-- A text between the tags of a style is rendered in the style. -/
theorem renders_styled {name : String} (named : IsStyle name) (position position' : Nat) (text : List Char) :
    Renders (.tag position name.toList :: (flush text ++ [.tag position' ('/' :: name.toList)])) := by
  intro screen r sound
  obtain ⟨r', shown, opened, spans⟩ := foldlM_flush text { r with opened := ⟨r.shown.length, name, none⟩ :: r.opened }
  have closes := named.applyTag_closing position' opened
  refine ⟨{ r' with opened := r.opened, spans := ⟨r.shown.length, r'.shown.length, name.toList⟩ :: r'.spans }, ?_,
    sound.closed, ?_⟩
  · rw [List.foldlM_cons, Rendering.step, named.applyTag_opening]
    show (flush text ++ [_]).foldlM (Rendering.step screen) _ = _
    rw [List.foldlM_append, shown]
    show [Part.tag position' ('/' :: name.toList)].foldlM (Rendering.step screen) r' = _
    rw [List.foldlM_cons, Rendering.step, closes]
    rfl
  · rw [spans]
    exact List.forall_mem_cons.mpr ⟨named.sound, sound.applied⟩

/-! ## Texts in styles -/

theorem render_of_renders {s : List Char} (screen : Screen) (renders : Renders (parts s)) :
    ∃ r, render screen s = .ok r ∧ r.Sound ∧ r.shown = (parts s).flatMap (Part.shown screen) := by
  obtain ⟨r, rendered, sound⟩ := renders screen {} ⟨rfl, nofun⟩
  exact ⟨r, rendered, sound, by simpa using shown_of_foldlM rendered⟩

end PltKeeper.Console
