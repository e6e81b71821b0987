import PltKeeper.Proofs.Run.Accounting
import PltKeeper.Proofs.Undisturbed

/-! What one question and one phase keep, a run keeps. Apart from questions and phases a run only logs and
changes the tree, which nobody can interrupt, and it ends with the first part that fails; so whatever the
parts that come through keep, and the one that fails after them, is kept by the run from its beginning to its
end. -/
namespace PltKeeper

variable {σ α β : Type}

/-- The second session is the first one but for its tree and for what has been logged. -/
def Session.Aside (s s' : Session σ) : Prop := ∃ t log, s' = { s with tree := t, log := log }

/-- What the parts of a run keep: one thing where they come through, another where they fail. Neither is
about trees and logs. -/
structure Conduct (σ : Type) where
  /-- What holds from before to after a part that came through. -/
  kept : Session σ → Session σ → Prop
  /-- What holds from before to after a part that failed. -/
  broken : Failure → Session σ → Session σ → Prop
  kept_aside : ∀ {s s'}, s.Aside s' → kept s s'
  broken_aside : ∀ {s s'} (e : Failure), e ≠ .interrupted → s.Aside s' → broken e s s'
  trans : ∀ {s s' s''}, kept s s' → kept s' s'' → kept s s''
  breaks : ∀ {e s s' s''}, kept s s' → broken e s' s'' → broken e s s''

namespace Act

/-- Wherever it begins, an action keeps to a conduct. -/
def KeepsTo (act : Act σ α) (c : Conduct σ) : Prop :=
  ∀ s, act.Ensures s (fun _ s' => c.kept s s') fun e s' => c.broken e s s'

variable {c : Conduct σ} {act : Act σ α}

theorem KeepsTo.bind {next : α → Act σ β} (first : act.KeepsTo c) (second : ∀ a, (next a).KeepsTo c) :
    (act >>= next).KeepsTo c := by
  intro s
  refine Ensures.bind (first s) (fun _ _ broken => broken) fun a s' kept => ?_
  exact (second a s').mono (fun _ _ later => c.trans kept later) fun _ _ broken => c.breaks kept broken

theorem KeepsTo.ite {p : Prop} [Decidable p] {other : Act σ α} (first : act.KeepsTo c)
    (second : other.KeepsTo c) : (if p then act else other).KeepsTo c :=
  fun s => ensures_ite.mpr ⟨fun _ => first s, fun _ => second s⟩

/-- An action that only logs and changes the tree, and that the user cannot stop. -/
def Apart (act : Act σ α) (s : Session σ) : Prop :=
  act.Ensures s (fun _ s' => s.Aside s') fun e s' => e ≠ .interrupted ∧ s.Aside s'

/-- Such an action keeps to every conduct. -/
theorem keepsTo_of_apart (apart : ∀ s, act.Apart s) : act.KeepsTo c :=
  fun s => Ensures.mono (apart s) (fun _ _ => c.kept_aside) fun e _ ⟨other, aside⟩ => c.broken_aside e other aside

theorem apart_changePartly {f : FileTree → Except Failure Unit × FileTree} (undisturbed : ∀ t, Undisturbed (f t).1)
    (s : Session σ) : (changePartly f).Apart s :=
  ensures_changePartly.mpr ⟨fun _ => ⟨_, s.log, rfl⟩, fun e failed => ⟨undisturbed _ e failed, _, s.log, rfl⟩⟩

theorem apart_change {f : FileTree → Except Failure FileTree} (undisturbed : ∀ t, Undisturbed (f t))
    (s : Session σ) : (change f).Apart s :=
  ensures_change.mpr ⟨fun _ _ => ⟨_, s.log, rfl⟩, fun e failed => ⟨undisturbed _ e failed, s.tree, s.log, rfl⟩⟩

theorem Apart.restate {f : SystemError → ToolError} {s : Session σ} (apart : act.Apart s) :
    (restate act f).Apart s := by
  refine ensures_restate_iff.mpr (Ensures.mono apart (fun _ _ moved => moved) fun e s' ⟨other, aside⟩ => ?_)
  cases e with
  | system cause => exact ⟨nofun, aside⟩
  | _ => exact ⟨other, aside⟩

theorem Apart.bind {next : α → Act σ β} {s : Session σ} (first : act.Apart s)
    (second : ∀ a s', (next a).Apart s') : (act >>= next).Apart s := by
  have trans {s₁ s₂ s₃ : Session σ} (one : s₁.Aside s₂) (two : s₂.Aside s₃) : s₁.Aside s₃ := by
    obtain ⟨_, _, rfl⟩ := one
    obtain ⟨t, log, rfl⟩ := two
    exact ⟨t, log, rfl⟩
  refine Ensures.bind first (fun _ _ failed => failed) fun a s' moved => ?_
  exact (second a s').mono (fun _ _ later => trans moved later) fun _ _ ⟨other, later⟩ => ⟨other, trans moved later⟩

theorem apart_info (message : String) (s : Session σ) : (info message : Act σ Unit).Apart s :=
  ⟨s.tree, s.log ++ [⟨.info, message⟩], rfl⟩

theorem apart_lift {r : Except Failure α} (undisturbed : Undisturbed r) (s : Session σ) : (lift r : Act σ α).Apart s :=
  ensures_lift.mpr ⟨fun _ _ => ⟨s.tree, s.log, rfl⟩, fun e failed => ⟨undisturbed e failed, s.tree, s.log, rfl⟩⟩

theorem apart_ofTree {look : FileTree → Except Failure α} (undisturbed : ∀ t, Undisturbed (look t))
    (s : Session σ) : (ofTree look : Act σ α).Apart s :=
  ensures_ofTree.mpr ⟨fun _ _ => ⟨s.tree, s.log, rfl⟩, fun e failed => ⟨undisturbed _ e failed, s.tree, s.log, rfl⟩⟩

theorem info_keepsTo (message : String) : (info message : Act σ Unit).KeepsTo c :=
  keepsTo_of_apart (apart_info message)

theorem pure_keepsTo (a : α) : (pure a : Act σ α).KeepsTo c :=
  keepsTo_of_apart fun s => ⟨s.tree, s.log, rfl⟩

end Act

open Act

namespace Resolver

variable {r : Resolver}

theorem apart_look {f : Registry → FileTree → Except Failure α} (undisturbed : ∀ g t, Undisturbed (f g t))
    (s : Session σ) : (r.look f : Act σ α).Apart s :=
  ensures_look.mpr ⟨fun _ _ => ⟨s.tree, s.log, rfl⟩, fun e failed => ⟨undisturbed _ _ e failed, s.tree, s.log, rfl⟩⟩

theorem apart_resolve (names : Json) (apps : List ProjectApp) (s : Session σ) :
    (r.resolve names apps : Act σ FileSet).Apart s := by
  refine (apart_info _ s).bind fun _ s' => apart_look (fun g t => ?_) s'
  exact undisturbed_elements.bind fun _ _ => Manifest.undisturbed_resolve

theorem apart_ownFiles (apps : List ProjectApp) (s : Session σ) : (r.ownFiles apps : Act σ FileSet).Apart s :=
  (apart_info _ s).bind fun _ s' => apart_look (fun _ _ => Manifest.undisturbed_projectFiles) s'

end Resolver

namespace Keeper

variable {k : Keeper σ} {c : Conduct σ}

theorem beginReport_keepsTo : k.beginReport.KeepsTo c := by
  unfold beginReport
  refine (keepsTo_of_apart fun s => Apart.restate ?_).bind fun _ => pure_keepsTo k.output
  exact (apart_changePartly (fun _ => FileTree.undisturbed_makeDirs) s).bind fun _ =>
    apart_change fun _ => FileTree.undisturbed_modify

variable (phase : ∀ a plt files, (k.runPhase a plt files).KeepsTo c)
include phase

theorem part_keepsTo (a : Analysis) (plt : Path) (files : FileSet) (message : String) :
    (k.part a plt files message).KeepsTo c := by
  unfold part
  exact (pure_keepsTo 0).ite ((info_keepsTo message).bind fun _ => phase a plt files.toList)

theorem sync_keepsTo (plt : Path) (held required : FileSet) : (k.sync plt held required).KeepsTo c := by
  unfold sync
  refine (part_keepsTo phase .remove plt _ _).bind fun removed => ?_
  refine (part_keepsTo phase .check plt _ _).bind fun checked => ?_
  exact (part_keepsTo phase .add plt _ _).bind fun added => pure_keepsTo _

theorem build_keepsTo (plt : Path) (files : List String) : (k.build plt files).KeepsTo c := by
  unfold build
  refine (keepsTo_of_apart fun s => (apart_changePartly (fun _ => FileTree.undisturbed_makeDirs) s).restate).bind
    fun _ => ?_
  exact (info_keepsTo _).bind fun _ => phase .build plt _

end Keeper

namespace Job

variable {j : Job σ} {c : Conduct σ}

theorem apart_requiredFiles (s : Session σ) : j.requiredFiles.Apart s := by
  have required : Undisturbed j.requiredApps :=
    undisturbed_elements.bind fun _ _ => undisturbed_elements.bind fun _ _ => OnlyFails.ok _
  exact (apart_lift required s).bind fun _ => Resolver.apart_resolve _ _

theorem copyBase_keepsTo : j.copyBase.KeepsTo c := by
  unfold copyBase
  refine (info_keepsTo _).bind fun _ => keepsTo_of_apart fun s => Apart.restate ?_
  exact (apart_changePartly (fun _ => FileTree.undisturbed_makeDirs) s).bind fun _ =>
    apart_change fun _ => FileTree.undisturbed_copy

section
variable (phase : ∀ a plt files, (j.keeper.runPhase a plt files).KeepsTo c)
include phase

theorem successTyping_keepsTo : j.successTyping.KeepsTo c := by
  unfold successTyping
  refine (pure_keepsTo 0).ite ((info_keepsTo _).bind fun _ => ?_)
  refine (keepsTo_of_apart (Resolver.apart_ownFiles _)).bind fun own => ?_
  exact (info_keepsTo _).bind fun _ => phase .successTyping j.plt own.toList

variable (read : ∀ plt, (j.keeper.read plt).KeepsTo c)
include read

theorem updateBase_keepsTo (files : FileSet) : (j.updateBase files).KeepsTo c := by
  unfold updateBase
  refine (read j.basePlt).bind fun answer => ?_
  cases answer with
  | none => exact Keeper.build_keepsTo phase j.basePlt files.toList
  | some held => exact Keeper.sync_keepsTo phase j.basePlt held files

theorem makeProjectPlt_keepsTo (files : FileSet) : (j.makeProjectPlt files).KeepsTo c := by
  unfold makeProjectPlt
  refine (info_keepsTo _).bind fun _ => ?_
  refine (keepsTo_of_apart (Resolver.apart_resolve _ _)).bind fun base => ?_
  refine (updateBase_keepsTo phase read base).bind fun warnings => ?_
  refine (keepsTo_of_apart (apart_ofTree fun _ => FileTree.undisturbed_test)).bind fun there => ?_
  refine KeepsTo.ite (copyBase_keepsTo.bind fun _ => ?_) ?_
  · exact (Keeper.sync_keepsTo phase j.plt base files).bind fun _ => pure_keepsTo _
  · exact (Keeper.build_keepsTo phase j.plt files.toList).bind fun _ => pure_keepsTo _

theorem updateProject_keepsTo : j.updateProject.KeepsTo c := by
  unfold updateProject
  refine (pure_keepsTo 0).ite ((info_keepsTo _).bind fun _ => ?_)
  refine (keepsTo_of_apart apart_requiredFiles).bind fun files => ?_
  refine (read j.plt).bind fun answer => ?_
  cases answer with
  | none => exact makeProjectPlt_keepsTo phase read files
  | some held => exact Keeper.sync_keepsTo phase j.plt held files

/-- The steps of a run keep to a conduct that its questions and its phases keep to. -/
theorem steps_keepsTo : j.steps.KeepsTo c := by
  unfold steps
  refine Keeper.beginReport_keepsTo.bind fun _ => (updateProject_keepsTo phase read).bind fun _ => ?_
  exact (successTyping_keepsTo phase).bind fun _ => pure_keepsTo _

end

end Job

end PltKeeper
