import PltKeeper.Tree.Access

/-!
Home directories. A relative path whose first component starts with a tilde is seen from the home
directory of the user that the component names.
-/

namespace PltKeeper

/-- The machine that the tool runs on, as far as the tool meets it. -/
structure Host where
  /-- The working directory. -/
  cwd : String
  /-- The home directory of the user who runs the tool. -/
  home : String
  /-- The home directories of named users. -/
  users : List (String × String)
  /-- The environment variables. -/
  environment : List (String × String)
  /-- How deep the lists and objects of a document may be nested. -/
  deepest : Nat := 985
  /-- Where the system stops adding bytes to a file. -/
  stops? : Stops := fun _ _ => none

instance : Inhabited Host := ⟨{ cwd := "", home := "", users := [], environment := [] }⟩

namespace Host

/-- The value of an environment variable. -/
def valueOf? (host : Host) (name : String) : Option String := host.environment.lookup name

/-- Whether a text starts with a tilde. -/
def startsWithTilde (s : String) : Bool := s.toList.head? = some '~'

/-- The home directory that a component starting with a tilde stands for. One that starts with a
tilde itself is none. -/
def homeOf? (host : Host) (component : List Char) : Option String :=
  let home := match component with
    | ['~'] => some host.home
    | '~' :: user => host.users.lookup (String.ofList user)
    | _ => none
  home.filter (!startsWithTilde ·)

/-- Replaces a tilde component at the front of a relative path by the home directory it stands
for. -/
def expandHome (host : Host) (p : Path) : Except Failure Path :=
  match p.anchor, p.parts with
  | .relative, first :: rest =>
    if startsWithTilde first then
      match host.homeOf? first.toList with
      | some home =>
        let home := Path.parse home
        .ok { home with parts := home.parts ++ rest }
      | none => .error .unknownHome
    else .ok p
  | _, _ => .ok p

end Host

end PltKeeper
