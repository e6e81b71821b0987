import PltKeeper.Proofs.Backend.Dialyzer.Counting
import PltKeeper.Proofs.Backend.Dialyzer.Launches
import PltKeeper.Proofs.Plt.Locations
import PltKeeper.Proofs.Text.Numeral

/-! What may go wrong with a process, and what of it reaches whoever launched it. Dialyzer's processes end in
nothing but the failures of a backend, however they end and whatever they print. What goes wrong beside the process
gets through: a text that no process can be given, and a time that is longer than the system can wait. Two steps let
a failure of the operating system through, too: the question whether a PLT is there, of a name that is too long to be
looked up, and the question to `erl`, where the program is found and cannot be started. -/
namespace PltKeeper

open OnlyFails

/-- What the next process does. -/
def Shell.next (sh : Shell) : ProcessOutcome := sh.pending.head?.getD silent

/-- What goes wrong with a launch beside its process. -/
inductive Launch.Unfit (programs : Programs) (l : Launch) (ended : ProcessEnd) : Prop
  /-- It is given a text that no process can be given. -/
  | unusable (text : String) (given : l.unusable? = some text)
  /-- It is to wait for longer than the system can, and nothing else ends the wait. -/
  | overlong (text : String) (long : l.overlong? programs = some text) (awaited : ended.isAwaited = true)

namespace Dialyzer

open Text

variable {d : Dialyzer} {t : FileTree} {sh : Shell} {o : Options} {plt : Path}

/-! ## What came of a process -/

/-- A process that the user let be, and that printed what can be read. -/
structure Ordinary (p : ProcessOutcome) : Prop where
  undisturbed : p.ended ≠ .interrupted
  measured : ∀ status out err, p.ended = .finished status out err → Measured out

/-- Wherever the program is there, nothing is wrong with its launch with these arguments. -/
def Fits (d : Dialyzer) (arguments : List String) (homePlt : Option String) (sh : Shell) : Prop :=
  ∀ program, d.programs.find? d.executable = some program →
    ¬ (d.launchOf arguments homePlt program).Unfit d.programs sh.next.ended

end Dialyzer

/-! ## The runtime -/

namespace OtpRuntime

variable {host : Host} {programs : Programs} {release root erl : String} {limit : Option Json} {t : FileTree}
  {sh : Shell}

end OtpRuntime

namespace Dialyzer

/-- A machine that has all programs whose names it can be given, and does not wait for more than 24 days. -/
def manyPrograms : Programs :=
  { Programs.under "/usr/bin/" [] with
    tooLong? := fun seconds => if 2147484 ≤ seconds then some "timeout is too large" else none }

/-- Dialyzer on such a machine. -/
def installed : Dialyzer where
  host := { cwd := "/w", home := "/h", users := [], environment := [] }
  programs := manyPrograms

/-- A shell whose next process ends like this. -/
def awaiting (ended : ProcessEnd) : Shell := { pending := [{ ended := ended }] }

/-- Two warnings, one of them over two lines. -/
def reported : ProcessEnd := .finished 2 "a.erl:3:7: first\n  more\nb.erl:12: second\n" ""

/-- An analysis of one file. -/
def question : Options := { analysis := .successTyping, files := ["a.beam"], getWarnings := .bool true, warnings := [] }

end Dialyzer

end PltKeeper
