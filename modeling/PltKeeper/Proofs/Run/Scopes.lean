import PltKeeper.Proofs.Application.Separation
import PltKeeper.Proofs.Run.Conduct

/-! The search path is scoped. A scope saves the search path, puts its own directories in front and puts back what
it saved when it is left, however that happens. Nothing in this says which scopes are open; that the search path is
always that of the open ones, innermost first, in front of what was there at first holds because scopes are left in
the opposite order. The same is said of scopes as they are opened and left one by one, of work that opens them
around further work and may fail in the midst of it, and of a run. -/
namespace PltKeeper

/-! ## Scopes one by one -/

/-- What can happen to the scopes of a search path. -/
inductive ScopeEvent
  | opened (paths : List Path)
  /-- The innermost scope is left at its end. -/
  | closed
  /-- The innermost scope is left by a failure. -/
  | failed
  deriving DecidableEq, Repr

/-- The scopes after an event. -/
def SearchScopes.after (scopes : SearchScopes) : ScopeEvent → SearchScopes
  | .opened paths => scopes.enter paths
  | .closed => scopes.leave
  | .failed => scopes.leave

/-- Well nested events, and the directories of the scopes that are then open, innermost first. -/
inductive Nested : List ScopeEvent → List (List Path) → Prop
  | start : Nested [] []
  | opened {events : List ScopeEvent} {scopes : List (List Path)} (nested : Nested events scopes)
    (paths : List Path) : Nested (events ++ [.opened paths]) (paths :: scopes)
  | closed {events : List ScopeEvent} {scopes : List (List Path)} {paths : List Path}
    (nested : Nested events (paths :: scopes)) : Nested (events ++ [.closed]) scopes
  | failed {events : List ScopeEvent} {scopes : List (List Path)} {paths : List Path}
    (nested : Nested events (paths :: scopes)) : Nested (events ++ [.failed]) scopes

/-- Events that are well nested are so at every moment. -/
theorem Nested.take {events : List ScopeEvent} {scopes : List (List Path)} (nested : Nested events scopes) (n : Nat) :
    ∃ scopes', Nested (events.take n) scopes' := by
  have last {events : List ScopeEvent} {event : ScopeEvent} {scopes : List (List Path)}
      (whole : Nested (events ++ [event]) scopes) (before : ∃ scopes', Nested (events.take n) scopes') :
      ∃ scopes', Nested ((events ++ [event]).take n) scopes' := by
    by_cases within : n ≤ events.length
    · rwa [List.take_append_of_le_length within]
    · refine ⟨scopes, ?_⟩
      rwa [List.take_of_length_le (by simp; omega)]
  induction nested with
  | start => exact ⟨[], by simpa using Nested.start⟩
  | opened nested paths ih => exact last (nested.opened paths) ih
  | closed nested ih => exact last nested.closed ih
  | failed nested ih => exact last nested.failed ih

namespace SearchScopes

/-- What each open scope saved, the innermost first: the search path of the scopes around it. -/
def savedBy (initial : List Path) : List (List Path) → List (List Path)
  | [] => []
  | _ :: outer => (outer.flatten ++ initial) :: savedBy initial outer

/-- Each event leaves the search path of the scopes that are open after it, and saved those around them. -/
theorem foldl_after {initial : List Path} {events : List ScopeEvent} {scopes : List (List Path)}
    (nested : Nested events scopes) :
    events.foldl after ⟨initial, []⟩ = ⟨scopes.flatten ++ initial, savedBy initial scopes⟩ := by
  induction nested with
  | start => rfl
  | opened nested paths ih =>
    rw [List.foldl_concat, ih]
    simp [after, enter, savedBy]
  | closed nested ih =>
    rw [List.foldl_concat, ih]
    rfl
  | failed nested ih =>
    rw [List.foldl_concat, ih]
    rfl

end SearchScopes

/-! ## Work within scopes -/

/-- Work on a search path. It looks applications up and goes on with the answer, or with the failure to find one; it
opens a scope around further work and goes on with how that ended; it may look at the search path itself, and may
fail anywhere. -/
inductive ScopedWork
  | done
  | fails (e : Failure)
  | lookUp (name : String) (next : Except Failure (Option Path) → ScopedWork)
  | inspect (next : List Path → ScopedWork)
  | scope (paths : List Path) (body : ScopedWork) (next : Except Failure Unit → ScopedWork)

namespace ScopedWork

variable {σ : Type} (r : Resolver)

/-- The work as it is carried out in a session, whose search path changes. -/
def perform : ScopedWork → Act σ Unit
  | done => pure ()
  | fails e => throw e
  | lookUp name next => fun s =>
    match r.locate name s with
    | .ok a s => (next (.ok a)).perform s
    | .error e s => (next (.error e)).perform s
  | inspect next => fun s => (next s.searchPath).perform s
  | scope paths body next => fun s =>
    match Act.withSearchPath paths body.perform s with
    | .ok _ s => (next (.ok ())).perform s
    | .error e s => (next (.error e)).perform s

/-- How the work ends if every lookup is answered by a registry that is made for it, with a search path that is
handed down and never changed. -/
def result (t : FileTree) (path : List Path) : ScopedWork → Except Failure Unit
  | done => .ok ()
  | fails e => .error e
  | lookUp name next => (next ((⟨path, r.libRoot⟩ : Registry).locate r.cwd t name)).result t path
  | inspect next => (next path).result t path
  | scope paths body next => (next (body.result t (paths ++ path))).result t path

/-- Work is carried out as if search paths were handed down, and leaves the session as it was. -/
theorem perform_eq (work : ScopedWork) (s : Session σ) :
    work.perform r s = Act.lift (work.result r s.tree s.searchPath) s := by
  induction work generalizing s with
  | done => rfl
  | fails e => rfl
  | lookUp name next ih =>
    simp only [perform, result, Resolver.locate, Resolver.look, Resolver.registry]
    cases (⟨s.searchPath, r.libRoot⟩ : Registry).locate r.cwd s.tree name <;> exact ih _ s
  | inspect next ih => exact ih s.searchPath s
  | scope paths body next inner ih =>
    simp only [perform, result, Act.withSearchPath, inner]
    cases body.result r s.tree (paths ++ s.searchPath) <;> exact ih _ s

end ScopedWork

/-! ## Runs -/

/-- Whatever is done in a session keeps its search path. -/
def staying (σ : Type) : Conduct σ where
  kept s s' := s'.searchPath = s.searchPath
  broken _ s s' := s'.searchPath = s.searchPath
  kept_aside := by
    rintro s _ ⟨t, log, rfl⟩
    rfl
  broken_aside := by
    rintro s _ e - ⟨t, log, rfl⟩
    rfl
  trans first second := second.trans first
  breaks first second := second.trans first

namespace Keeper

open Act

variable {σ : Type} {k : Keeper σ}

theorem read_staying (plt : Path) : (k.read plt).KeepsTo (staying σ) :=
  fun _ => ensures_accept.mpr ⟨fun _ _ => rfl, fun _ _ => rfl⟩

theorem report_staying (ds : List Diagnostic) : (k.report ds).KeepsTo (staying σ) :=
  fun _ => ensures_report (fun _ => rfl) (fun _ _ => rfl) fun _ _ _ => rfl

theorem runPhase_staying (a : Analysis) (plt : Path) (files : List String) :
    (k.runPhase a plt files).KeepsTo (staying σ) := by
  have analyze (files : List String) : (k.analyze a files plt).KeepsTo (staying σ) :=
    fun _ => (ensures_analyze rfl rfl).mpr ⟨fun _ _ => rfl, fun _ _ => rfl⟩
  have phase := (analyze (FileSet.of k.cwd files).toList).bind fun ds => report_staying (k := k) ds
  exact KeepsTo.ite (pure_keepsTo 0) fun s => ensures_recordPhase.mpr (phase s)

end Keeper

namespace Job

variable {σ : Type} (j : Job σ)

/-- The steps of a run are done with the project's dependencies in front of the search path, to the last. -/
theorem searchPath_of_steps (s : Session σ) :
    (j.steps.after (j.opened s)).searchPath = j.project.codePaths ++ s.searchPath :=
  Act.Ensures.after (P := fun s' => s'.searchPath = j.project.codePaths ++ s.searchPath)
    (steps_keepsTo (c := staying σ) Keeper.runPhase_staying Keeper.read_staying (j.opened s))

/-- However a run ends, the search path is what it was. -/
theorem searchPath_of_run (s : Session σ) : (j.run.after s).searchPath = s.searchPath := by
  unfold Act.after
  cases ran : j.guarded (j.opened s) with
  | ok result s' =>
    rw [j.run_of_result ran]
    cases result with
    | error e => rfl
    | ok warnings => by_cases none : warnings = 0 <;> simp [none, bind, EStateM.bind] <;> rfl
  | error e s' => rw [j.run_of_failure ran]

end Job

/-- The search path is scoped. At every moment of a well nested sequence of events it is that of the scopes that are
open, innermost first, in front of the first one, and applications are sought along it; work within scopes, as deep
as may be and however it fails, is carried out as if each lookup had a registry of its own; and a run, whose steps
see the project's dependencies first, leaves the search path as it found it. -/
theorem search_path_scoped {σ : Type} (r : Resolver) (s : Session σ) {events : List ScopeEvent}
    {scopes : List (List Path)} (nested : Nested events scopes) :
    (events.foldl SearchScopes.after ⟨s.searchPath, []⟩).current = scopes.flatten ++ s.searchPath ∧
      (∀ n, ∃ scopes' s', Nested (events.take n) scopes' ∧
        s' = { s with searchPath := ((events.take n).foldl SearchScopes.after ⟨s.searchPath, []⟩).current } ∧
        s'.searchPath = scopes'.flatten ++ s.searchPath ∧
        ∀ name, r.locate name s' =
          Act.lift ((⟨scopes'.flatten ++ s.searchPath, r.libRoot⟩ : Registry).locate r.cwd s.tree name) s') ∧
      (∀ work : ScopedWork, work.perform r s = Act.lift (work.result r s.tree s.searchPath) s) ∧
      ∀ j : Job σ, (j.run.after s).searchPath = s.searchPath ∧
        (j.steps.after (j.opened s)).searchPath = j.project.codePaths ++ s.searchPath := by
  refine ⟨?_, fun n => ?_, fun work => work.perform_eq r s, fun j => ⟨j.searchPath_of_run s, j.searchPath_of_steps s⟩⟩
  · rw [SearchScopes.foldl_after nested]
  · obtain ⟨scopes', here⟩ := nested.take n
    have current : ((events.take n).foldl SearchScopes.after ⟨s.searchPath, []⟩).current =
        scopes'.flatten ++ s.searchPath := by rw [SearchScopes.foldl_after here]
    refine ⟨scopes', _, here, rfl, current, fun name => ?_⟩
    simp only [Resolver.locate, Resolver.look, Resolver.registry, current]
    rfl

/-- Two scopes are opened, the inner one is left by a failure and another is opened in its place. -/
theorem search_path_scoped_of_four : ∃ events scopes, Nested events scopes ∧
    events.length = 4 ∧ scopes = [[Path.parse "/d"], [Path.parse "/a"]] ∧
    (events.foldl SearchScopes.after ⟨Job.threeSession.searchPath, []⟩).current =
      [Path.parse "/d", Path.parse "/a", Path.parse "/w/dep/ebin"] ∧
    (Job.ofThree.run.after Job.threeSession).searchPath = [Path.parse "/w/dep/ebin"] := by
  have first := Nested.start.opened [Path.parse "/a"]
  have nested := ((first.opened [Path.parse "/b", Path.parse "/c"]).failed).opened [Path.parse "/d"]
  obtain ⟨current, -, -, ran⟩ := search_path_scoped Job.ofThree.resolver Job.threeSession nested
  exact ⟨_, _, nested, rfl, rfl, current, (ran Job.ofThree).1⟩

end PltKeeper
