import PltKeeper.Text.Blank
import PltKeeper.Text.LowerCase
import PltKeeper.Text.Surrogate

/-!
The console that messages are shown on: how wide it is, which codes it shows as pictures, and which
halves of surrogate pairs its encoding takes. A code stands between colons and holds no blank; it may
name a variant of its picture behind a hyphen. Codes that stand for no picture are shown as they are.
-/

namespace PltKeeper.Console

/-- Where codes stand for no pictures, no picture holds any of these characters. -/
theorem plain_of_none (_code picture : String) (known : (none : Option String) = some picture) :
    ∀ c ∈ picture.toList, c ≠ ':' ∧ c ≠ '\\' ∧ c ≠ '[' ∧ Text.isHalf c = false := by
  cases known

/-- What messages are shown on. -/
structure Screen where
  /-- How many columns it has. -/
  width : Nat := 80
  /-- The picture that a code stands for. -/
  picture? : String → Option String := fun _ => none
  /-- No picture holds a colon, a backslash, an opening bracket or a half of a surrogate pair. -/
  plain : ∀ code picture, picture? code = some picture →
      ∀ c ∈ picture.toList, c ≠ ':' ∧ c ≠ '\\' ∧ c ≠ '[' ∧ Text.isHalf c = false := by
    exact PltKeeper.Console.plain_of_none
  /-- Whether the output takes a half of a surrogate pair. -/
  takes : Char → Bool := fun _ => false

instance : Inhabited Screen := ⟨{}⟩

namespace Screen

variable (screen : Screen)

/-- The end of a code that names a variant of its picture, and the selector of that variant. -/
def variants : List (List Char × Char) :=
  [(['-', 'e', 'm', 'o', 'j', 'i'], '\ufe0f'), (['-', 't', 'e', 'x', 't'], '\ufe0e')]

/-- The name that a code gives a picture, and what is shown behind the picture. -/
def splitCode (code : List Char) : List Char × List Char :=
  match variants.find? fun v => v.1.isSuffixOf code with
  | some (ending, selector) => (code.take (code.length - ending.length), [selector])
  | none => (code, [])

/-- What is shown for a code that stands for a picture. -/
def pictured? (code : List Char) : Option (List Char) :=
  let (name, selector) := splitCode code
  (screen.picture? (String.ofList (Text.lower name))).map fun p => p.toList ++ selector

/-- What is shown for a text that was cut at its colons, from the first colon on. -/
def shownPieces : List (List Char) → List Char
  | [] => []
  | [last] => ':' :: last
  | code :: text :: rest =>
    if code.any Text.isBlank then ':' :: code ++ shownPieces (text :: rest)
    else
      match screen.pictured? code with
      | some picture => picture ++ text ++ shownPieces rest
      | none => ':' :: code ++ ':' :: text ++ shownPieces rest

/-- A text with its codes replaced by the pictures that they stand for. -/
def shown (s : List Char) : List Char :=
  match s.splitOn ':' with
  | [] => []
  | text :: rest => text ++ screen.shownPieces rest

end Screen

end PltKeeper.Console
