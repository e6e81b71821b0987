import PltKeeper.Proofs.Backend.Dialyzer.Idle
import PltKeeper.Proofs.Command.Crashes
import PltKeeper.Proofs.Command.Messages

/-! What is left of setting up a run and of reading its PLT, if the processes write nothing: what has been logged,
the record of the processes, and what has been printed. However a command ends, it leaves no more than its parts
do, but for what is written of a crash. -/
namespace PltKeeper

namespace Command

variable {α : Type} {m : Machine} {o : InfoOptions} {s s' : State} {root : String} {arguments rest : List String}
  {options : List (String × Json)} {c : Config} {log : List LogRecord} {job : Job Shell} {e : Failure}

/-! ## What a command leaves -/

/-- The state when so much has been logged and these processes have been launched. -/
def State.past (s : State) (log : List LogRecord) (launched : List Launch) : State :=
  { s with shell := s.shell.past launched, log := s.log ++ log }

/-- What is found out about the runtime that a configuration is for. -/
def runtimeReply (m : Machine) (c : Config) (t : FileTree) (sh : Shell) : Reply Shell OtpRuntime :=
  OtpRuntime.resolve m.host m.programs (runtimeValue c "otp_release").display (runtimeValue c "otp_root").display
    (runtimeValue c "erl").display (some ((Dialyzer.limitOf (runtimeValue c "timeout")).getD (.int 30))) t sh

end Command

end PltKeeper
