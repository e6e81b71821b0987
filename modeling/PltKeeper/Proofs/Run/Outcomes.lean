import PltKeeper.Proofs.Application.Versions
import PltKeeper.Proofs.Backend.Exact
import PltKeeper.Proofs.Run.Ends

/-! Which failures a run can end with. Whatever the tool reports and whatever the operating system refuses
becomes the outcome of a run. Step by step, an action of a run fails with nothing else, save for one thing:
among the directories of an application that is sought there may be one whose version has no rank. That
failure escapes, and the directory is to be seen in the tree that the run leaves; so a run that leaves none
has returned. -/
namespace PltKeeper

variable {σ α β : Type}

/-- A failure that becomes the outcome of a run. -/
def Failure.Reported (e : Failure) : Prop := (∃ stop, e = .tool stop) ∨ e.OfSystem

/-- A backend that fails with such failures only. -/
structure Backend.Reports (b : Backend σ) : Prop where
  query : ∀ plt t st e, (b.query plt t st).result = .error e → e.Reported
  analyze : ∀ o t st e, (b.analyze o t st).result = .error e → e.Reported

namespace Act

/-- Wherever it begins, an action fails only as said, the tree being the one that it leaves. -/
def FailsOnly (act : Act σ α) (kind : Failure → FileTree → Prop) : Prop :=
  ∀ s, act.Ensures s (fun _ _ => True) fun e s' => kind e s'.tree

variable {kind : Failure → FileTree → Prop} {act : Act σ α}

theorem FailsOnly.bind {next : α → Act σ β} (first : act.FailsOnly kind) (second : ∀ a, (next a).FailsOnly kind) :
    (act >>= next).FailsOnly kind :=
  fun s => Ensures.bind (first s) (fun _ _ failed => failed) fun a s' _ => second a s'

theorem FailsOnly.ite {c : Prop} [Decidable c] {other : Act σ α} (first : act.FailsOnly kind)
    (second : other.FailsOnly kind) : (if c then act else other).FailsOnly kind :=
  fun s => ensures_ite.mpr ⟨fun _ => first s, fun _ => second s⟩

/-- What the tool reports in place of a refusal is reported all the same. -/
theorem FailsOnly.restate {f : SystemError → ToolError} (only : act.FailsOnly kind)
    (reported : ∀ e t, e.Reported → kind e t) : (restate act f).FailsOnly kind := by
  refine fun s => ensures_restate_iff.mpr ((only s).mono (fun _ _ done => done) fun e s' only => ?_)
  cases e with
  | system cause => exact reported _ _ (.inl ⟨f cause, rfl⟩)
  | _ => exact only

end Act

open Act

variable {kind : Failure → FileTree → Prop} (reported : ∀ e t, e.Reported → kind e t)
include reported

namespace Keeper

variable {k : Keeper σ} {plt : Path}

variable (reports : k.backend.Reports)
include reports

variable (usable : k.output.Usable) (encodable : k.FindsEncodable)
include usable encodable

end Keeper

namespace Job

omit reported

variable {j : Job σ} {names : List String}

/-- What has to be so for a run to return: its backend reports its failures and finds what can be encoded, the
names that are sought are texts, and its files can be named. -/
structure Orderly (j : Job σ) (names : List String) : Prop where
  backend : j.keeper.backend.Reports
  encodable : j.keeper.FindsEncodable
  texts : j.requiredApps = .ok (names.map .str)
  plt : j.plt.Usable
  basePlt : j.basePlt.Usable
  output : j.keeper.output.Usable

section
variable (orderly : j.Orderly names)
include orderly

end

/-! ## The outcome -/

/-- An outcome that fits its status: nothing to say of a success, the warnings that were found, or the error
that stopped the run. -/
def Fits (j : Job σ) (o : Outcome) : Prop :=
  match o.status with
  | .success => o.warnings = 0 ∧ o.error = none
  | .warnings => ∃ n : Nat, 0 < n ∧ o.warnings = n ∧
      o.error = some (.tool (.warningsFound n (some j.keeper.output)))
  | .failed => ∃ stop, o.error = some (.tool stop)

/-- A backend for which there is no PLT, and no analysis comes through. -/
def broken : Backend Nat where
  query _ t calls := ⟨.ok none, t, calls + 1⟩
  analyze _ t calls := ⟨.error (.tool (.backend "no analysis")), t, calls + 1⟩

/-- A run for a base application of the runtime. -/
def versioned : Except Failure (Job Nat) :=
  Job.of Exact.host broken { Exact.settings "/w/s" with baseApps := .arr [.str "kernel"] } Exact.project
    ⟨"26", Path.parse "/otp"⟩

end Job

end PltKeeper
