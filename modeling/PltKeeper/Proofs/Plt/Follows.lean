import PltKeeper.Proofs.Application.Resolution
import PltKeeper.Proofs.Backend.SetSemantics
import PltKeeper.Proofs.Plt.Names

/-! What an action of the maintenance asks of the backend, and what it leaves of the rest of a
session. One that completes has asked just what was planned; one that stops, a first part of it. -/
namespace PltKeeper

variable {σ : Type} {s s' s'' : Session σ} {made planned more : List Request}

/-- From the first session to the second these requests were made. The search path is the same. -/
structure Session.Follows (s s' : Session σ) (made : List Request) : Prop where
  /-- The search path is the same. -/
  searchPath : s'.searchPath = s.searchPath
  /-- The requests were made, and no others. -/
  requests : s'.requests = s.requests ++ made
  /-- The tree stays one in which every entry stands in a directory. -/
  formed : s.tree.WellFormed → s'.tree.WellFormed

/-- From the first session to the second a first part of what was planned has been asked. -/
def Session.Stops (s s' : Session σ) (planned : List Request) : Prop :=
  ∃ made, made <+: planned ∧ s.Follows s' made

namespace Session

theorem Follows.refl (s : Session σ) : s.Follows s [] := ⟨rfl, by simp, id⟩

theorem Follows.trans (first : s.Follows s' made) (second : s'.Follows s'' more) :
    s.Follows s'' (made ++ more) :=
  ⟨second.searchPath.trans first.searchPath,
    by rw [second.requests, first.requests, List.append_assoc],
    fun formed => second.formed (first.formed formed)⟩

theorem LoggedSince.follows (logged : s.LoggedSince s') : s.Follows s' [] := by
  obtain ⟨records, rfl⟩ := logged
  exact ⟨rfl, by simp, id⟩

theorem Follows.recorded {phases : List Phase} (follows : s.Follows s' made) :
    s.Follows { s' with phases := phases } made := ⟨follows.searchPath, follows.requests, follows.formed⟩

theorem Follows.logged {log : List LogRecord} (follows : s.Follows s' made) :
    s.Follows { s' with log := log } made := ⟨follows.searchPath, follows.requests, follows.formed⟩

theorem Follows.stops (follows : s.Follows s' made) : s.Stops s' made := ⟨made, List.prefix_rfl, follows⟩

/-- Whatever was planned to come next, what has been asked is a first part of all. -/
theorem Stops.append (stops : s.Stops s' planned) (more : List Request) : s.Stops s' (planned ++ more) := by
  obtain ⟨made, first, follows⟩ := stops
  exact ⟨made, first.trans (List.prefix_append planned more), follows⟩

theorem Stops.formed (stops : s.Stops s' planned) (formed : s.tree.WellFormed) : s'.tree.WellFormed := by
  obtain ⟨_, _, follows⟩ := stops
  exact follows.formed formed

theorem Follows.then_stops (first : s.Follows s' made) (second : s'.Stops s'' planned) :
    s.Stops s'' (made ++ planned) := by
  obtain ⟨later, front, follows⟩ := second
  exact ⟨made ++ later, (List.prefix_append_right_inj made).mpr front, first.trans follows⟩

end Session

/-! ## The backend's part in a session -/

namespace Keeper

variable {k : Keeper σ} {format : PltFormat} {plts : List Path} {plt : Path}

/-- What the maintenance of PLTs relies on: a backend with set semantics, and a warnings file that is
none of the PLTs. -/
structure Keeps (k : Keeper σ) (format : PltFormat) (plts : List Path) : Prop where
  /-- The working directory is absolute. -/
  rooted : Path.Rooted k.cwd
  /-- The backend works on sets of files. -/
  semantics : k.backend.SetSemantics format k.cwd plts
  /-- The warnings file is at no PLT's place. -/
  apart : ∀ plt ∈ plts, ∀ t : FileTree, ¬ t.SameFile k.cwd plt k.output

/-- The requests that an analysis of files amounts to: none if there are no files. -/
def ask (k : Keeper σ) (a : Analysis) (plt : Path) (files : FileSet) : List Request :=
  if files.isEmpty then [] else [.analyze (k.wishes.optionsFor a files.toList plt)]

/-- The requests that bring a PLT from the files it holds to those required. -/
def syncRequests (k : Keeper σ) (plt : Path) (held required : FileSet) : List Request :=
  k.ask .remove plt (held \ required) ++ k.ask .check plt (held ∩ required) ++
    k.ask .add plt (required \ held)

/-- With everything held required, nothing is removed and all of it checked. -/
theorem syncRequests_of_subset {held required : FileSet} (within : ∀ file ∈ held, file ∈ required) :
    k.syncRequests plt held required = k.ask .check plt held ++ k.ask .add plt (required \ held) := by
  obtain ⟨nothing, all⟩ := FileSet.delta_of_subset within
  have empty : (∅ : FileSet).isEmpty = true := rfl
  simp [syncRequests, ask, nothing, all, empty]

/-- A session after a request, with what the backend left behind. -/
def answered {α : Type} (s : Session σ) (request : Request) (reply : Reply σ α) : Session σ :=
  { s with tree := reply.tree, backend := reply.state, requests := s.requests ++ [request] }

theorem ensures_accept {α : Type} {request : Request} {reply : Reply σ α} {post : α → Session σ → Prop}
    {stopped : Failure → Session σ → Prop} :
    (accept request reply).Ensures s post stopped ↔
      (∀ a, reply.result = .ok a → post a (answered s request reply)) ∧
        ∀ e, reply.result = .error e → stopped e (answered s request reply) := by
  unfold Act.Ensures accept answered
  cases reply.result <;> simp

theorem ensures_analyze {a : Analysis} {files : List String} {post : List Diagnostic → Session σ → Prop}
    {stopped : Failure → Session σ → Prop} {options : Options} {reply : Reply σ (List Diagnostic)}
    (asked : k.wishes.optionsFor a files plt = options)
    (replied : k.backend.analyze options s.tree s.backend = reply) :
    (k.analyze a files plt).Ensures s post stopped ↔
      (∀ ds, reply.result = .ok ds →
        post (if options.getWarnings.isSet then ds else []) (answered s (.analyze options) reply)) ∧
        ∀ e, reply.result = .error e → stopped e (answered s (.analyze options) reply) := by
  subst asked replied
  unfold Act.Ensures analyze
  cases ran : (k.backend.analyze (k.wishes.optionsFor a files plt) s.tree s.backend).result <;>
    simp [accept, answered, ran]

theorem follows_answered {α : Type} {request : Request} {reply : Reply σ α}
    (formed : s.tree.WellFormed → reply.tree.WellFormed) : s.Follows (answered s request reply) [request] :=
  ⟨rfl, rfl, formed⟩

/-- A question leaves the tree and is answered as the PLT is. -/
theorem read_ends (keeps : k.Keeps format plts) (member : plt ∈ plts) (s : Session σ) :
    (k.read plt).Ensures s
      (fun answer s' => s.Follows s' [.query plt] ∧ s'.tree = s.tree ∧
        s.tree.pltAt format k.cwd plt = .ofAnswer answer)
      fun _ s' => s.Follows s' [.query plt] ∧ s'.tree = s.tree := by
  have asked := keeps.semantics.asks plt s.tree s.backend
  have follows : s.Follows (answered s (.query plt) (k.backend.query plt s.tree s.backend)) [.query plt] :=
    follows_answered (congrArg FileTree.WellFormed asked).mpr
  show (accept (.query plt) (k.backend.query plt s.tree s.backend)).Ensures s _ _
  rw [ensures_accept]
  refine ⟨?_, fun e _ => ⟨follows, asked⟩⟩
  intro answer given
  exact ⟨follows, asked, keeps.semantics.answers plt member s.tree s.backend answer given⟩

end Keeper

end PltKeeper
