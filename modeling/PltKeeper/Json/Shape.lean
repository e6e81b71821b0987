import PltKeeper.Json.Value
import PltKeeper.Path.Basic
import PltKeeper.Failure

/-!
Taking values of documents for what a use expects, with the failure where one is of another shape.
-/

namespace PltKeeper.Json

/-- The elements of a value where a list is expected: the characters of a text, the names of an
object. -/
def elements : Json → Except Failure (List Json)
  | arr items => .ok items
  | str s => .ok (s.toList.map fun c => str (String.singleton c))
  | obj fields => .ok (fields.map fun f => str f.1)
  | value => .error (.badType ("'" ++ value.typeName ++ "' object is not iterable"))

/-- The field of a value where an object is expected. -/
def required (value : Json) (key : String) : Except Failure Json :=
  match value with
  | obj fields =>
    match field? fields key with
    | some v => .ok v
    | none => .error (.missingKey key)
  | str _ => .error (.badType "string indices must be integers, not 'str'")
  | arr _ => .error (.badType "list indices must be integers or slices, not str")
  | value => .error (.badType ("'" ++ value.typeName ++ "' object is not subscriptable"))

/-- The path that a value names. -/
def asPath : Json → Except Failure Path
  | str s => .ok (Path.parse s)
  | value => .error (.badType
      ("expected str, bytes or os.PathLike object, not " ++ value.typeName))

end PltKeeper.Json
