import PltKeeper.Proofs.Application.Resolution
import PltKeeper.Proofs.Text.Numeral
import PltKeeper.Proofs.Traversal
import PltKeeper.Proofs.Tree.Refusals

/-! What can go wrong when names are resolved. Whether a component of a version is taken for a number is
decided by characters that look like digits, and some of them are none; so a version has a rank just where
every component that looks like a number is one, and is not too long. All else that can fail is a name that
is not found, a directory that cannot be read, both of which the tool reports, or a path that is too long to
be looked up. -/
namespace PltKeeper

open Text

namespace AppDirectory

/-- A component that does not look like a number, or is one and not too long. -/
def Rankable (part : List Char) : Prop :=
  (∀ c ∈ part, isDigitLike c = true) → (∀ c ∈ part, isDigit c = true) ∧ part.length ≤ digitLimit

instance (part : List Char) : Decidable (Rankable part) :=
  decidable_of_iff (part.all isDigitLike = true → part.all isDigit = true ∧ part.length ≤ digitLimit)
    (by simp only [Rankable, List.all_eq_true])

/-- A version whose components all are. -/
def Ranked (version : String) : Prop := ∀ part ∈ version.toList.splitOnP isSeparator, Rankable part

instance (version : String) : Decidable (Ranked version) := List.decidableBAll _ _

end AppDirectory

namespace Registry

/-- Below the library root there is a directory for this application whose version has no rank. -/
def Unranked (libRoot : Option Path) (cwd : String) (t : FileTree) (name : String) : Prop :=
  ∃ root directories, libRoot = some root ∧ t.list cwd root = .ok directories ∧
    ∃ d ∈ directories, (AppDirectory.ofName d).name = name ∧ ¬ AppDirectory.Ranked (AppDirectory.ofName d).version

variable {r : Registry} {cwd : String} {t : FileTree} {name : String} {ebin : Path} {place? : Option Path} {e : Failure}

/-- Where an application should be, whether it is there or not. -/
def place (r : Registry) (cwd : String) (t : FileTree) (name : String) : Except Failure (Option Path) :=
  match r.inSearchPath? name with
  | some ebin => .ok (some ebin)
  | none => r.inLibRoot? cwd t name

/-- The place, if a directory is there. -/
def there? (cwd : String) (t : FileTree) : Option Path → Except Failure (Option Path)
  | none => .ok none
  | some ebin => (t.isDir cwd ebin).map fun isDir => if isDir then some ebin else none

theorem there?_eq_some_iff :
    there? cwd t place? = .ok (some ebin) ↔ place? = some ebin ∧ t.isDir cwd ebin = .ok true := by
  cases place? with
  | none => simp [there?]
  | some place =>
    constructor
    · intro found
      cases answer : t.isDir cwd place with
      | error e => simp [there?, answer, Except.map] at found
      | ok isDir =>
        obtain ⟨rfl, rfl⟩ : isDir = true ∧ place = ebin := by simpa [there?, answer, Except.map] using found
        exact ⟨rfl, answer⟩
    · rintro ⟨⟨⟩, dir⟩
      simp [there?, dir, Except.map]

theorem locate_eq : r.locate cwd t name = (r.place cwd t name).bind (there? cwd t) := by
  have last : ∀ ebin, (do return if ← t.isDir cwd ebin then some ebin else none : Except Failure (Option Path)) =
      there? cwd t (some ebin) := by
    intro ebin
    simp only [there?]
    cases t.isDir cwd ebin <;> rfl
  unfold locate place
  cases r.inSearchPath? name with
  | some ebin => exact last ebin
  | none =>
    cases r.inLibRoot? cwd t name with
    | error e => rfl
    | ok place? =>
      cases place? with
      | none => rfl
      | some ebin => exact last ebin

end Registry

namespace Manifest

variable {r : Registry} {cwd : String} {t : FileTree} {e : Failure}

/-- What fails when an application's files are sought: the tool reports it, a path is too long, or a
version has no rank. -/
inductive Fault (libRoot : Option Path) (cwd : String) (t : FileTree) (names : List String) : Failure → Prop
  | reported (stop : ToolError) : Fault libRoot cwd t names (.tool stop)
  | tooLong {e : Failure} (long : e.TooLong) : Fault libRoot cwd t names e
  | unranked (message : String) {name : String} (sought : name ∈ names)
      (unranked : Registry.Unranked libRoot cwd t name) : Fault libRoot cwd t names (.badValue message)

theorem Fault.mono {libRoot : Option Path} {names names' : List String} (fault : Fault libRoot cwd t names e)
    (more : ∀ name ∈ names, name ∈ names') : Fault libRoot cwd t names' e := by
  cases fault with
  | reported stop => exact .reported stop
  | tooLong long => exact .tooLong long
  | unranked message sought unranked => exact .unranked message (more _ sought) unranked

end Manifest

end PltKeeper
