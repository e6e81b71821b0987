import PltKeeper.Proofs.Tree.Places
import PltKeeper.Proofs.Tree.Refusals
import PltKeeper.Command.Crash

/-! What a crash leaves in the file tree, location by location: directories that were missing on the way to the
error log, and the error log with one more entry, or with as much of it as could be written. Everything else is
as it was. An entry that the operating system refuses is done without; if it cannot be written for another reason,
the crash itself fails. -/
namespace PltKeeper

namespace FileTree

variable {t t' : FileTree} {cwd : String} {p : Path} {l : Location}

end FileTree

namespace Command

variable {m : Machine} {root command : String} {e : Failure} {s : State}

/-- The failure cannot be entered in the error log, and it is not the operating system that refuses. -/
def Unrecordable (m : Machine) (root command : String) (e : Failure) (t : FileTree) : Prop :=
  ∃ cause, (writeEntry m (Path.parse root) command e t).1 = .error cause ∧ ∀ refusal, cause ≠ .system refusal

/-- The state after a crash. -/
def crashed (m : Machine) (root command : String) (e : Failure) (s : State) : State :=
  { s with
    tree := (writeEntry m (Path.parse root) command e s.tree).2
    log := s.log ++ [⟨.error, "Command '" ++ command ++ "' failed: " ++ e.message⟩] }

theorem crash_eq_ok (recordable : ¬ Unrecordable m root command e s.tree) :
    ∃ shown, crash m root command e s = .ok shown (crashed m root command e s) := by
  unfold crash crashed
  cases written : (writeEntry m (Path.parse root) command e s.tree).1 with
  | ok => simp [written]
  | error cause =>
    cases cause with
    | system => simp [written]
    | _ => exact absurd ⟨_, written, nofun⟩ recordable

theorem crash_eq_error (unrecordable : Unrecordable m root command e s.tree) :
    ∃ cause, crash m root command e s = .error cause (crashed m root command e s) := by
  obtain ⟨cause, written, other⟩ := unrecordable
  refine ⟨cause, ?_⟩
  unfold crash crashed
  cases cause with
  | system refusal => exact absurd rfl (other refusal)
  | _ => simp [written]

/-- Where all of an entry is text that can be encoded, and there is nothing amiss with the path of the error log, a
crash can be recorded. -/
theorem recordable_of_encodable {t : FileTree} (usable : (errorLogPath (Path.parse root)).Usable)
    (encodable : ∀ part ∈ logEntry m command e, Text.IsEncodable part) : ¬ Unrecordable m root command e t := by
  rintro ⟨cause, written, other⟩
  unfold writeEntry at written
  dsimp only at written
  split at written
  · rename_i refused
    cases written
    obtain ⟨refusal, same⟩ := FileTree.makeDirs_error usable.parent (by rw [refused])
    exact other refusal same
  · rename_i t₁ _
    have appends := t₁.appendTexts_appends m.host.cwd (errorLogPath (Path.parse root)) m.host.stops? (logEntry m command e)
    generalize t₁.appendTexts m.host.cwd (errorLogPath (Path.parse root)) m.host.stops? (logEntry m command e) = r at *
    cases appends with
    | all => cases written
    | stopped _ _ refusal =>
      cases written
      exact other refusal rfl
    | spoiled cut _ spoils =>
      have member := cut ▸ List.mem_append_right _ List.mem_cons_self
      exact nomatch spoils.symm.trans (Text.fault?_isHalf_iff.mpr (encodable _ member))
    | refused access =>
      cases written
      obtain ⟨refusal, same⟩ := access.ofSystem usable
      exact other refusal same

end Command

end PltKeeper
