import PltKeeper.Decimal.Binary64
import PltKeeper.Text.Quoted

/-!
Values of data documents. Whole numbers and decimals are apart, and the fields of an object keep the
order in which they were written; a name written twice keeps its first place and its last value.
-/

namespace PltKeeper

/-- A value of a data document. -/
inductive Json
  | null
  | bool (b : Bool)
  | int (n : Int)
  | real (x : Binary64)
  | str (s : String)
  | arr (items : List Json)
  | obj (fields : List (String × Json))
  deriving Inhabited

namespace Json

/-- The type of a value, as messages name it. -/
def typeName : Json → String
  | null => "NoneType"
  | bool _ => "bool"
  | int _ => "int"
  | real _ => "float"
  | str _ => "str"
  | arr _ => "list"
  | obj _ => "dict"

/-- Whether a value counts as set: not null, false, zero or empty. -/
def isSet : Json → Bool
  | null => false
  | bool b => b
  | int n => n ≠ 0
  | real x => match x.magnitude with
    | .finite m _ => m ≠ 0
    | _ => true
  | str s => s ≠ ""
  | arr items => !items.isEmpty
  | obj fields => !fields.isEmpty

/-- The value of a field, if the object has one of that name. -/
def field? (fields : List (String × Json)) (key : String) : Option Json := fields.lookup key

/-- Sets a field: in its place if the name is known, else at the end. -/
def putField (fields : List (String × Json)) (key : String) (value : Json) :
    List (String × Json) :=
  if fields.any (·.1 = key) then
    fields.map fun f => if f.1 = key then (key, value) else f
  else fields ++ [(key, value)]

mutual

/-- A value as messages show it inside another: texts are quoted. -/
def inner : Json → String
  | null => "None"
  | bool b => if b then "True" else "False"
  | int n => toString n
  | real x => x.text Binary64.plain
  | str s => Text.quoted s
  | arr items => "[" ++ ", ".intercalate (innerItems items) ++ "]"
  | obj fields => "\x7b" ++ ", ".intercalate (innerFields fields) ++ "\x7d"

/-- The items of a list as messages show them. -/
def innerItems : List Json → List String
  | [] => []
  | item :: rest => inner item :: innerItems rest

/-- The fields of an object as messages show them. -/
def innerFields : List (String × Json) → List String
  | [] => []
  | (key, value) :: rest => (Text.quoted key ++ ": " ++ inner value) :: innerFields rest

end

/-- A value as messages show it: a text stands for itself. -/
def display : Json → String
  | str s => s
  | value => value.inner

end Json

end PltKeeper
