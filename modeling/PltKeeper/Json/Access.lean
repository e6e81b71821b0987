import PltKeeper.Json.Value
import PltKeeper.Path.Basic

/-!
Looking into documents whose shape is known. A field that is missing, or of another type than the
one asked for, counts as not given.
-/

namespace PltKeeper.Json

/-- A field of an object. -/
def get? (j : Json) (key : String) : Option Json :=
  match j with
  | obj fields => field? fields key
  | _ => none

/-- A field of an object that is not null. -/
def given? (j : Json) (key : String) : Option Json :=
  match j.get? key with
  | some null => none
  | other => other

/-- A field of an object, or an empty object. -/
def sub (j : Json) (key : String) : Json := (j.get? key).getD (obj [])

/-- The text that a value is. -/
def asText? : Json → Option String
  | str s => some s
  | _ => none

/-- The whole number that a value is. -/
def asInt? : Json → Option Int
  | int n => some n
  | bool b => some (if b then 1 else 0)
  | _ => none

/-- A field that is a text. -/
def text? (j : Json) (key : String) : Option String := (j.get? key).bind asText?

/-- A field that is a text, or what stands for it. -/
def text (j : Json) (key : String) (missing : String) : String := (j.text? key).getD missing

/-- A field that is a path. -/
def path? (j : Json) (key : String) : Option Path := (j.text? key).map Path.parse

/-- A field that is a whole number, or what stands for it. -/
def number (j : Json) (key : String) (missing : Int) : Int :=
  ((j.get? key).bind asInt?).getD missing

/-- Whether a field is set, or what stands for it. -/
def flag (j : Json) (key : String) (missing : Bool) : Bool :=
  match j.get? key with
  | some value => value.isSet
  | none => missing

/-- The items of a field that is a list. -/
def items (j : Json) (key : String) : List Json :=
  match j.get? key with
  | some (arr items) => items
  | _ => []

/-- The texts in a field that is a list. -/
def texts (j : Json) (key : String) : List String := (j.items key).filterMap asText?

/-- The paths in a field that is a list. -/
def paths (j : Json) (key : String) : List Path := (j.texts key).map Path.parse

/-- The fields of a field that is an object. -/
def fields (j : Json) (key : String) : List (String × Json) :=
  match j.get? key with
  | some (obj fields) => fields
  | _ => []

/-- A list of texts. -/
def ofTexts (items : List String) : Json := arr (items.map str)

/-- A list of paths. -/
def ofPaths (items : List Path) : Json := arr (items.map fun p => str p.text)

/-- A text, or null. -/
def ofText? (s : Option String) : Json := (s.map str).getD null

/-- A path, or null. -/
def ofPath? (p : Option Path) : Json := ofText? (p.map Path.text)

mutual

/-- A value with every text in it changed, the names of fields included. -/
def mapTexts (f : String → String) : Json → Json
  | str s => str (f s)
  | arr items => arr (mapItems f items)
  | obj fields => obj (mapFields f fields)
  | value => value

/-- Items with every text in them changed. -/
def mapItems (f : String → String) : List Json → List Json
  | [] => []
  | item :: rest => mapTexts f item :: mapItems f rest

/-- Fields with every text in them changed. -/
def mapFields (f : String → String) : List (String × Json) → List (String × Json)
  | [] => []
  | (key, value) :: rest => (f key, mapTexts f value) :: mapFields f rest

end

mutual

/-- Whether two values are equal; a truth value equals the number that stands for it. -/
def agrees : Json → Json → Bool
  | null, null => true
  | str a, str b => a = b
  | real a, real b => a = b
  | arr xs, arr ys => itemsAgree xs ys
  | obj xs, obj ys => fieldsAgree xs ys
  | a, b =>
    match asInt? a, asInt? b with
    | some m, some n => m = n
    | _, _ => false

/-- Whether items are equal one by one. -/
def itemsAgree : List Json → List Json → Bool
  | [], [] => true
  | x :: xs, y :: ys => agrees x y && itemsAgree xs ys
  | _, _ => false

/-- Whether fields are equal one by one. -/
def fieldsAgree : List (String × Json) → List (String × Json) → Bool
  | [], [] => true
  | (k, x) :: xs, (l, y) :: ys => k = l && agrees x y && fieldsAgree xs ys
  | _, _ => false

end

end PltKeeper.Json
