import PltKeeper.Proofs.Backend.Failures
import PltKeeper.Proofs.Tree.Refusals

/-! Processes that write nothing. They leave the tree as it is, so all that comes of a question is its answer and
the record of the processes launched for it: at most one for the question about the runtime, and one for the
listing of a PLT just where there is a PLT and the program. What they answer does not depend on the tree. An
environment holds only what can be handed on to a process. -/
namespace PltKeeper

variable {sh : Shell} {t : FileTree}

namespace Shell

/-- No process to come writes anything. -/
def Idle (sh : Shell) : Prop := ∀ p ∈ sh.pending, ∀ t, p.effect t = t

/-- The shell after these processes have been launched. -/
def past (sh : Shell) (launched : List Launch) : Shell :=
  ⟨sh.pending.drop launched.length, sh.launches ++ launched⟩

theorem Idle.past (idle : sh.Idle) (launched : List Launch) : (sh.past launched).Idle :=
  fun p member => idle p (List.mem_of_mem_drop member)

/-- A process that is launched leaves the tree as it is. -/
theorem Idle.launch {l : Launch} (idle : sh.Idle) (usable : l.unusable? = none) (programs : Programs) (t : FileTree) :
    sh.launch programs l t = (waited programs l sh.next.ended, t, sh.past [l]) := by
  have same : (sh.pending.head?.getD silent).effect t = t := by
    cases pending : sh.pending with
    | nil => rfl
    | cons p rest => exact idle p (by simp [pending]) t
  rw [launch_of_usable usable, same]
  simp only [Shell.past, next, List.length_singleton, List.drop_one]

end Shell

namespace OtpRuntime

variable {host : Host} {programs : Programs} {release root erl : String} {limit : Option Json}

/-- The question to `erl`, or nothing. -/
def AtMostAsked (programs : Programs) (launched : List Launch) : Prop :=
  launched = [] ∨ ∃ erl program limit, programs.find? erl = some program ∧
    launched = [questionTo limit program]

end OtpRuntime

namespace Dialyzer

variable {d : Dialyzer} {plt : Path}

/-- How the process is launched that lists a PLT. -/
def listingOf (d : Dialyzer) (plt : Path) (program : String) : Launch :=
  d.launchOf ["--plt_info", "--plt", plt.text] none program

/-- The processes that a question about a PLT launches: one that lists it, if it is a regular file and there is
the program. -/
def listings (d : Dialyzer) (plt : Path) (t : FileTree) : List Launch :=
  match t.isFile d.host.cwd plt, d.programs.find? d.executable with
  | .ok true, some program => [d.listingOf plt program]
  | _, _ => []

end Dialyzer

end PltKeeper
