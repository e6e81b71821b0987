import PltKeeper.Proofs.Console.Layout
import PltKeeper.Proofs.Console.Markup
import PltKeeper.Proofs.Command.ExitCodes
import PltKeeper.Proofs.Text.Numeral

/-! What the commands print of texts that they did not write: the message of an error, and the path of a PLT. Both
are put into markup as they are. So they are shown in full just if they hold no markup of their own, no code that
stands for a picture and nothing that cannot be printed, and if laying them out cuts nothing off, which it does not
on a console of two columns or more unless a word begins with a character that takes none. -/
namespace PltKeeper.Command

open Console Text

variable {screen : Screen} {width position fuel : Nat} {s text shown : String} {before body tail : List Char}
  {front : List Part}

/-! ## Texts that are shown -/

/-- A text without control characters. -/
def Plain (s : String) : Prop := ∀ c ∈ s.toList, 32 ≤ c.toNat ∧ (c.toNat < 127 ∨ 160 ≤ c.toNat)

variable {m : Machine} {o : InfoOptions} {plt : Path} {held : Option FileSet} {state : State}

/-- How many files a PLT holds, in words. -/
def countText (n : Nat) : String := s!"  {n} files"

/-- The line that says how many files a PLT holds. -/
def countLine (width n : Nat) : String := printed (wrap width (countText n).toList)

end PltKeeper.Command
