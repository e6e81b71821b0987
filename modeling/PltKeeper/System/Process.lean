import PltKeeper.Failure
import PltKeeper.Json.Value
import PltKeeper.Tree.Basic

/-!
Processes as the tool sees them: it launches one, waits, and is told how it ended. How they end is
given in advance, one outcome for every launch; a launch beyond the last outcome succeeds silently.
The system may not be able to wait as long as it is told to: then the process is started, stopped at
once and given up.
-/

namespace PltKeeper

/-- A process that was launched. -/
structure Launch where
  /-- The program and its arguments. -/
  argv : List String
  /-- The seconds after which it is stopped. -/
  limit : Option Json
  /-- The PLT that the child's environment names as its own. -/
  dialyzerPlt : Option String
  deriving Inhabited

/-- The first text that no process can be given. -/
def Launch.unusable? (l : Launch) : Option String :=
  (l.dialyzerPlt.toList ++ l.argv).find? (·.toList.any Text.isUnusable)

/-- How a process ends. -/
inductive ProcessEnd
  /-- It finished with a status and what it printed. -/
  | finished (status : Int) (out err : String)
  /-- It was stopped after its time. -/
  | timedOut
  /-- It could not be started. -/
  | refused (e : SystemError)
  /-- The user stopped the tool while it ran. -/
  | interrupted
  deriving Inhabited

/-- Whether the end is one that was waited for: the process was started, and nothing ended the wait
before its time. -/
def ProcessEnd.isAwaited : ProcessEnd → Bool
  | finished .. | timedOut => true
  | refused _ | interrupted => false

/-- Where there are no programs, none is at a place that no process can be given. -/
theorem launchable_of_none (_name program : String) (known : (none : Option String) = some program) :
    program.toList.any Text.isUnusable = false := by
  cases known

/-- What the system offers to those who launch processes. -/
structure Programs where
  /-- Where the program of a name is. -/
  find? : String → Option String := fun _ => none
  /-- Its place is a text that a process can be given. -/
  launchable : ∀ name program, find? name = some program → program.toList.any Text.isUnusable = false := by
    exact PltKeeper.launchable_of_none
  /-- What the system says of a wait of so many seconds, if it is longer than it can wait. -/
  tooLong? : Int → Option String := fun _ => none

instance : Inhabited Programs := ⟨{}⟩

/-- The programs of a directory: one of every name that can be given, but for those that are missing. -/
def Programs.under (directory : String) (missing : List String) : Programs where
  find? name :=
    let program := directory ++ name
    if name ∈ missing || program.toList.any Text.isUnusable then none else some program
  launchable := by
    intro name program found
    dsimp only at found
    split at found
    · cases found
    · rename_i can
      cases found
      exact (Bool.or_eq_false_iff.mp (Bool.eq_false_iff.mpr can)).2

/-- What the system says of the time for which it is to wait for a process, if that is too long. -/
def Launch.overlong? (l : Launch) (programs : Programs) : Option String :=
  match l.limit with
  | some (.int seconds) => programs.tooLong? seconds
  | _ => none

/-- What a process does: how it ends, and what it does to the tree before. -/
structure ProcessOutcome where
  /-- How it ends. -/
  ended : ProcessEnd
  /-- What it does to the tree. -/
  effect : FileTree → FileTree := id
  deriving Inhabited

/-- The processes to come and those that were launched. -/
structure Shell where
  /-- What the next processes do. -/
  pending : List ProcessOutcome := []
  /-- The processes launched, first one first. -/
  launches : List Launch := []
  deriving Inhabited

namespace Shell

/-- A process that succeeds silently. -/
def silent : ProcessOutcome := { ended := .finished 0 "" "" }

/-- How the wait for a process ends, if the process ends in this way. -/
def waited (programs : Programs) (l : Launch) (ended : ProcessEnd) : Except Failure ProcessEnd :=
  match l.overlong? programs with
  | some text => if ended.isAwaited then .error (.tooLarge text) else .ok ended
  | none => .ok ended

/-- Launches a process and waits for its end. One that is given a text that no process can be given
is not launched. -/
def launch (sh : Shell) (programs : Programs) (l : Launch) (t : FileTree) :
    Except Failure ProcessEnd × FileTree × Shell :=
  match l.unusable? with
  | some text => (.error (.unusable text), t, sh)
  | none =>
    let next := sh.pending.head?.getD silent
    (waited programs l next.ended, next.effect t, ⟨sh.pending.tail, sh.launches ++ [l]⟩)

end Shell

end PltKeeper
