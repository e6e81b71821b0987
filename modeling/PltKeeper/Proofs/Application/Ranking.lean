import PltKeeper.Proofs.Application.Naming
import PltKeeper.Proofs.Application.Separation
import Mathlib.Data.List.Lex
import Mathlib.Data.Prod.Lex
import Mathlib.Data.String.Basic

/-! How the directories of one application are ranked. The ranks of a version are numbers, or -1 for a component
that is none, and are compared as a list, so that a longer version is above its own beginning; names decide between
equal ranks. That is a linear order, and the highest of several candidates is its greatest one, in whatever order
they come. -/
namespace PltKeeper

namespace Candidate

/-- What a candidate is compared by: the ranks of its version first, then its name. -/
def standing (c : Candidate) : List Int ×ₗ String := toLex (c.key, c.directory)

end Candidate

/-! ## Numbers -/

namespace Text

variable {s : List Char}

/-- The number that decimal digits of any scripts spell. -/
def numberOf (ds : List Char) : Nat := ds.foldl (fun n d => 10 * n + (digitValue? d).getD 0) 0

end Text

namespace AppDirectory

open Text

/-! ## The ranks of a version -/

/-- The components of a version. -/
def components (version : String) : List (List Char) := version.toList.splitOnP isSeparator

/-- Each component of a version that looks like a number is one. -/
def Decimal (version : String) : Prop :=
  ∀ part ∈ components version, (∀ c ∈ part, isDigitLike c = true) → ∀ c ∈ part, isDigit c = true

instance (version : String) : Decidable (Decimal version) :=
  decidable_of_iff (∀ part ∈ components version, part.all isDigitLike = true → part.all isDigit = true)
    (by simp only [Decimal, List.all_eq_true])

/-- The rank of a component: its number, or -1 if it is none. -/
def rankOf (part : List Char) : Int := if part ≠ [] ∧ part.all isDigit then numberOf part else -1

/-- The ranks of a version's components. -/
def ranks (version : String) : List Int := (components version).map rankOf

/-- No version ranks below none. -/
theorem ranks_empty_le (version : String) : ranks "" ≤ ranks version := by
  have least : ∀ part, -1 ≤ rankOf part := by
    intro part
    unfold rankOf
    split
    · omega
    · exact le_refl _
  have empty : ranks "" = [-1] := rfl
  rw [empty, ranks, components]
  cases pieces : version.toList.splitOnP isSeparator with
  | nil => exact absurd pieces (List.splitOnP_ne_nil _ _)
  | cons first others =>
    rw [List.map_cons]
    refine not_lt.mp fun below => ?_
    rcases List.cons_lt_cons_iff.mp below with lower | ⟨-, shorter⟩
    · exact absurd lower (not_lt.mpr (least first))
    · exact List.not_lt_nil _ shorter

end AppDirectory

end PltKeeper
