import PltKeeper.Proofs.Backend.Exact
import PltKeeper.Proofs.Run.Traces

/-! PLTs over many runs. Projects that share a base PLT come one after another, and between their runs the
tree may change as it likes, but for the PLTs. What a run keeps, all runs together keep: nothing that has
been analysed is lost, and none of it is analysed anew by a build. -/
namespace PltKeeper

open FileTree

/-- A history of the PLTs at these places: from one tree to another by runs of whatever project, and by
what goes on between them, with all the calls that the runs have made. -/
inductive History (places : Location → Prop) : FileTree → List Moment → FileTree → Prop
  | start (t : FileTree) : History places t [] t
  /-- Between two runs nobody touches the PLTs. -/
  | meanwhile {t u u' : FileTree} {ms : List Moment} (past : History places t ms u)
      (same : ∀ l, places l → u'.fileAt? l = u.fileAt? l) (formed : u'.WellFormed) : History places t ms u'
  | run {σ : Type} {t : FileTree} {ms : List Moment} {host : Host} {backend : Backend σ} {settings : Settings}
      {project : Project} {runtime : OtpRuntime} {j : Job σ} {s : Session σ}
      (past : History places t ms s.tree) (made : Job.of host backend settings project runtime = .ok j)
      (plain : ∀ plt ∈ j.plts, ".." ∉ plt.parts) (within : ∀ l, j.places l → places l)
      (conserves : backend.Conserves host.cwd) : History places t (ms ++ j.moments s) (j.run.after s).tree

/-- What becomes of the PLTs at these places in the course of a history. -/
structure Preserved (places : Location → Prop) (t : FileTree) (ms : List Moment) (u : FileTree) : Prop where
  /-- No build is asked for where a regular file is, -/
  anew : ∀ m ∈ ms, m.BuildsAnew
  /-- no call takes a PLT away, -/
  spared : ∀ m ∈ ms, m.Spares
  /-- between two calls PLTs keep what they hold, -/
  unbroken : Unbroken (fun l => places l ∧ IsPlt l) t ms u
  /-- one that is there at the beginning is there ever after, -/
  survives : ∀ l, places l → IsPlt l → (t.fileAt? l).isSome = true →
    (∀ m ∈ ms, (m.before.fileAt? l).isSome = true ∧ (m.after.fileAt? l).isSome = true) ∧
      (u.fileAt? l).isSome = true
  /-- and no two builds of one PLT come through. -/
  once : ms.Pairwise fun m m' => ∀ l, m.Builds l → ¬ m'.Builds l

variable {σ : Type} {places : Location → Prop} {t u : FileTree} {ms : List Moment}

/-- What conserves PLTs conserves those of any run. -/
theorem Job.guards_of {host : Host} {backend : Backend σ} {settings : Settings} {project : Project}
    {runtime : OtpRuntime} {j : Job σ} (made : Job.of host backend settings project runtime = .ok j)
    (plain : ∀ plt ∈ j.plts, ".." ∉ plt.parts) (conserves : backend.Conserves host.cwd) :
    j.keeper.Guards j.plts := by
  obtain ⟨_, _, _, same, directory, _⟩ := Job.of_eq_ok made
  have placed := Job.of_placed made
  refine ⟨?_, plain, ?_, placed.output⟩
  · rw [same, directory]
    exact conserves
  · intro plt member
    rcases Job.mem_plts.mp member with rfl | rfl
    · exact placed.plt
    · exact placed.basePlt

namespace History

/-- The calls of a history are sound, and between them no PLT is touched. -/
theorem traced (history : History places t ms u) (formed : t.WellFormed) :
    (∀ m ∈ ms, m.Sound places) ∧ Unbroken (fun l => places l ∧ IsPlt l) t ms u ∧ u.WellFormed := by
  induction history with
  | start t => exact ⟨by simp, .refl _ t, formed⟩
  | meanwhile past same formed' ih =>
    obtain ⟨sound, unbroken, -⟩ := ih formed
    exact ⟨sound, unbroken.then_keeps fun l place bytes there => (same l place.1).trans there, formed'⟩
  | @run _ t ms _ _ _ _ _ j s past made plain within conserves ih =>
    obtain ⟨sound, unbroken, formed⟩ := ih formed
    obtain ⟨soundRun, unbrokenRun, formed⟩ := Job.run_traced (Job.guards_of made plain conserves) formed
    refine ⟨?_, unbroken.append (unbrokenRun.mono fun l place => not_isReport_of_isPlt place.2), formed⟩
    intro m member
    exact (List.mem_append.mp member).elim (sound m) fun member => (soundRun m member).mono within

theorem preserved (history : History places t ms u) (formed : t.WellFormed) : Preserved places t ms u := by
  obtain ⟨sound, unbroken, -⟩ := history.traced formed
  exact {
    anew := fun m member => (sound m member).anew
    spared := fun m member => (sound m member).spares
    unbroken := unbroken
    survives := fun l place plt there => unbroken.survives sound ⟨place, plt⟩ plt there
    once := unbroken.once sound fun l place plt => ⟨place, plt⟩ }

end History

/-! ## Unreadable PLTs -/

/-- What a backend answers to a question, in whatever state it is. -/
def Backend.Says (b : Backend σ) (t : FileTree) (plt : Path) (answer : Except Failure (Option FileSet)) : Prop :=
  ∀ st, (b.query plt t st).result = answer

namespace Job

variable {host : Host} {backend : Backend σ} {settings : Settings} {project : Project} {runtime : OtpRuntime}
  {j : Job σ} {s s₁ : Session σ} {target : Path} {questions : List Request}

/-- A run meets an unreadable PLT: the project PLT, or the base PLT if there is no project PLT. -/
inductive Meets (j : Job σ) (t : FileTree) : Path → List Request → Prop
  | plt (unreadable : j.keeper.backend.Says t j.plt (.error (.tool (.unreadablePlt j.plt)))) :
      Meets j t j.plt [.query j.plt]
  | basePlt (absent : j.keeper.backend.Says t j.plt (.ok none))
      (unreadable : j.keeper.backend.Says t j.basePlt (.error (.tool (.unreadablePlt j.basePlt)))) :
      Meets j t j.basePlt [.query j.plt, .query j.basePlt]

/-- What is said of a PLT comes of reading it, and nothing else has changed. -/
theorem read_ensures (conserves : j.keeper.backend.Conserves j.keeper.cwd) {t : FileTree} {plt : Path}
    {answer : Except Failure (Option FileSet)} (said : j.keeper.backend.Says t plt answer) (sameTree : s.tree = t) :
    (j.keeper.read plt).Ensures s
      (fun found s' => answer = .ok found ∧
        ∃ state, s' = { s with backend := state, requests := s.requests ++ [.query plt] })
      fun e s' => answer = .error e ∧
        ∃ state, s' = { s with backend := state, requests := s.requests ++ [.query plt] } := by
  subst sameTree
  let reply := j.keeper.backend.query plt s.tree s.backend
  have same : Keeper.answered s (.query plt) reply =
      { s with backend := reply.state, requests := s.requests ++ [.query plt] } := by
    unfold Keeper.answered
    rw [show reply.tree = s.tree from conserves.asks plt s.tree s.backend]
  show (Keeper.accept (.query plt) reply).Ensures s _ _
  rw [Keeper.ensures_accept, show reply.result = answer from said s.backend]
  exact ⟨fun _ given => ⟨given, _, same⟩, fun _ failed => ⟨failed, _, same⟩⟩

/-- The maintenance of a run that meets an unreadable PLT stops there, having asked questions only. -/
theorem updateProject_meets (conserves : j.keeper.backend.Conserves j.keeper.cwd)
    (updating : j.settings.updatePlt.isSet = true) {required : FileSet} (yields : j.requiredFiles.Yields s required)
    (meets : j.Meets s.tree target questions) :
    j.updateProject.Ensures s (fun _ _ => False) fun e s' =>
      e = .tool (.unreadablePlt target) ∧ s'.tree = s.tree ∧ s'.requests = s.requests ++ questions := by
  obtain ⟨base, -, resolves⟩ := base_of_required yields
  unfold updateProject
  refine Act.ensures_ite.mpr ⟨fun off => absurd updating (by simpa using off), fun _ => ?_⟩
  refine Act.ensures_bind.mpr (Act.ensures_info.mpr (Act.ensures_bind.mpr ?_))
  let begun : Session σ := { s with log := s.log ++ [⟨.info, "Updating plt..."⟩] }
  obtain ⟨s₁, resolved⟩ : j.requiredFiles.Yields begun required := requiredFiles_yields_of_same j yields rfl rfl
  rw [Act.ensures_of_ok resolved]
  obtain ⟨records, rfl⟩ := ((j.requiredFiles_ends begun).of_ok resolved).1
  cases meets with
  | plt unreadable =>
    refine Act.Ensures.bind (read_ensures conserves unreadable ?_) ?_ fun _ _ ⟨given, _⟩ => nomatch given
    · rfl
    rintro e s' ⟨failed, state, rfl⟩
    exact ⟨(Except.error.inj failed).symm, rfl, rfl⟩
  | basePlt absent unreadable =>
    refine Act.Ensures.bind (read_ensures conserves absent ?_) (fun _ _ ⟨failed, _⟩ => nomatch failed) ?_
    · rfl
    rintro found s₂ ⟨given, state, rfl⟩
    cases given
    show (j.makeProjectPlt required).Ensures _ _ _
    unfold makeProjectPlt
    refine Act.ensures_bind.mpr (Act.ensures_info.mpr (Act.ensures_bind.mpr ?_))
    obtain ⟨s₃, resolvedBase⟩ := resolves
      { s with
        backend := state
        requests := s.requests ++ [.query j.plt]
        log := begun.log ++ records ++ [⟨.info, "Updating base plt..."⟩] } rfl rfl
    rw [Act.ensures_of_ok resolvedBase]
    obtain ⟨more, rfl⟩ := ((j.baseFiles_ends _).of_ok resolvedBase).1
    refine Act.ensures_bind.mpr ?_
    unfold updateBase
    refine Act.Ensures.bind (read_ensures conserves unreadable ?_) ?_ fun _ _ ⟨given, _⟩ => nomatch given
    · rfl
    rintro e s' ⟨failed, state, rfl⟩
    exact ⟨(Except.error.inj failed).symm, rfl, by simp⟩

/-- A run that meets an unreadable PLT has failed for that reason, and no PLT has changed. -/
theorem run_meets (guards : j.keeper.Guards j.plts) (formed : s.tree.WellFormed)
    (updating : j.settings.updatePlt.isSet = true) (begins : j.Begins s s₁) {required : FileSet}
    (yields : j.requiredFiles.Yields s₁ required) (meets : j.Meets s₁.tree target questions) :
    ∃ s', j.run s = .ok (j.failed (.unreadablePlt target) s') s' ∧ s'.requests = s.requests ++ questions ∧
      ∀ plt ∈ j.plts, s'.tree.bytesAt? j.keeper.cwd plt = s.tree.bytesAt? j.keeper.cwd plt := by
  obtain ⟨output, begun⟩ := begins
  obtain ⟨t, rfl, quiet⟩ := (Keeper.beginReport_quiet guards.report).of_ok begun
  have stops : j.steps.Ensures (j.opened s) (fun _ _ => False) fun e s' =>
      e = .tool (.unreadablePlt target) ∧ s'.tree = t ∧ s'.requests = s.requests ++ questions := by
    unfold steps
    refine Act.ensures_bind.mpr ((Act.ensures_of_ok begun).mpr ?_)
    exact (updateProject_meets guards.conserves updating yields meets).bind (fun _ _ met => met) fun _ _ never =>
      never.elim
  cases ran : j.steps (j.opened s) with
  | ok n s' => exact (stops.of_ok ran).elim
  | error e s' =>
    obtain ⟨rfl, rfl, requests⟩ := stops.of_error ran
    obtain ⟨s'', ⟨path, log, rfl⟩, outcome⟩ := run_of_stopped ran rfl
    refine ⟨_, outcome, requests, fun plt member => ?_⟩
    exact quiet.bytesAt? formed (guards.plain plt member) (guards.named plt member)

/-- After whatever history, a run keeps what has been analysed. No build is asked for where a regular file
is, so that every PLT is built once at most; a PLT that is there stays, with what it holds between the calls
that write it; and a copy is made only where no file is, so that between its calls a run leaves every file
as it is, but for warnings files. An unreadable PLT stops the run before it analyses anything, and all PLTs
are what they were. -/
theorem plts_after_history (history : History places t ms s.tree) (formed : t.WellFormed)
    (made : Job.of host backend settings project runtime = .ok j) (plain : ∀ plt ∈ j.plts, ".." ∉ plt.parts)
    (within : ∀ l, j.places l → places l) (conserves : backend.Conserves host.cwd) :
    Preserved places t (ms ++ j.moments s) (j.run.after s).tree ∧
      Unbroken (fun l => ¬ IsReport l) s.tree (j.moments s) (j.run.after s).tree ∧
      ∀ s₁ required target questions, settings.updatePlt.isSet = true → j.Begins s s₁ →
        j.requiredFiles.Yields s₁ required → j.Meets s₁.tree target questions →
        ∃ s', j.run s = .ok (j.failed (.unreadablePlt target) s') s' ∧
          s'.requests = s.requests ++ questions ∧
          ∀ plt ∈ j.plts, s'.tree.bytesAt? host.cwd plt = s.tree.bytesAt? host.cwd plt := by
  obtain ⟨_, _, _, _, directory, sameSettings, _⟩ := Job.of_eq_ok made
  have guards := guards_of made plain conserves
  have formedNow := (history.traced formed).2.2
  refine ⟨(history.run made plain within conserves).preserved formed, (run_traced guards formedNow).2.1, ?_⟩
  intro s₁ required target questions updating begins yields meets
  rw [← directory]
  exact run_meets guards formedNow (sameSettings ▸ updating) begins yields meets

end Job

namespace Exact

variable {cwd : String} {fails : Nat → Option Failure} {finds : List Diagnostic}

/-- The exact backend conserves PLTs. -/
theorem conserves (rooted : Path.Rooted cwd) : (backend cwd fails finds).Conserves cwd where
  asks plt t st := rfl
  absent := by
    intro plt t calls none
    have semantics : (backend cwd fails finds).SetSemantics (contents cwd) cwd [plt] := setSemantics rooted
    exact FileTree.pltAt_eq_absent_iff.mp (semantics.answers plt (by simp) t calls _ none)
  formed := by
    intro o t calls formed
    rcases analyze_cases o t calls with ⟨same, -⟩ | ⟨-, -, plt, bytes, -, written⟩
    · rw [same]
      exact formed
    · exact formed.modify written
  writes := by
    intro o t calls ds plt _ ran writing output plain
    rcases analyze_cases o t calls with ⟨-, fails⟩ | ⟨-, -, target, bytes, given, written⟩
    · obtain ⟨e, failed⟩ := fails writing
      exact nomatch ran.symm.trans failed
    · obtain rfl : plt = target := Option.some.inj (output.symm.trans given)
      obtain ⟨l, reached, -⟩ := FileTree.modify_eq_ok written
      obtain rfl := FileTree.reach_plain plain reached
      exact ⟨by simp [(FileTree.bytesAt?_modify written).1], fun l _ other => fileAt?_modify written reached other⟩
  spares := by
    intro o t calls ds ran reading l _
    rcases analyze_cases o t calls with ⟨same, -⟩ | ⟨writing, -⟩
    · rw [same]
    · exact nomatch writing.symm.trans reading
  fails := by
    intro o t calls e failed l _
    rcases analyze_cases o t calls with ⟨same, -⟩ | ⟨-, ran, -⟩
    · rw [same]
    · exact nomatch failed.symm.trans ran

/-- A session with a base PLT that cannot be read. -/
def spoiled : Session Nat := sessionIn (tree.put ["w", "s", "rebar3_26_plt"] (.file [7]))

/-- Another run, with a project PLT of its own. -/
def sibling : Except Failure (Job Nat) :=
  Job.of host (backend "/w" (fun _ => none) []) { settings "/w/s" with stem := .str "sibling" } project
    ⟨"26", Path.parse "/otp"⟩

theorem wellFormed_spoiled : spoiled.tree.WellFormed := FileTree.wellFormed_of_entries (by decide)

end Exact

/-- One project builds its PLT; the next one then meets an unreadable base PLT. -/
theorem Job.plts_of_two_projects : ∃ (j j' : Job Nat) (s s' : Session Nat),
    Exact.job "/w/n" (fun _ => none) [] = .ok j ∧ Exact.sibling = .ok j' ∧
      s = Exact.sessionIn (j.run.after Exact.spoiled).tree ∧
      (j.moments Exact.spoiled).map (·.options.analysis) = [.build, .successTyping] ∧
      j'.run s = .ok (j'.failed (.unreadablePlt j'.basePlt) s') s' ∧
      s'.requests = [.query j'.plt, .query j'.basePlt] ∧
      Preserved (fun _ => True) Exact.spoiled.tree (j.moments Exact.spoiled ++ j'.moments s) s'.tree := by
  have checked : checkRun (Exact.job "/w/n" (fun _ => none) []) Exact.spoiled (fun j _ s' =>
      checkRun Exact.sibling (Exact.sessionIn s'.tree) fun j' _ _ =>
        j'.keeper.beginReport.check (j'.opened (Exact.sessionIn s'.tree)) fun _ s₁ =>
          j'.requiredFiles.check s₁ fun _ _ =>
            (j.moments Exact.spoiled).map (·.options.analysis) = [.build, .successTyping] &&
              (j.plts.all fun plt => !plt.parts.contains "..") &&
              (j'.plts.all fun plt => !plt.parts.contains "..") &&
              s₁.tree.pltAt (Exact.contents "/w") "/w" j'.plt = .absent &&
              s₁.tree.pltAt (Exact.contents "/w") "/w" j'.basePlt = .unreadable) = true := by
    decide +kernel
  obtain ⟨j, o, s₀, made, ran, checked⟩ := of_checkRun checked
  obtain ⟨j', o', _, made', -, checked⟩ := of_checkRun checked
  obtain ⟨output, s₁, begun, checked⟩ := Act.of_check checked
  obtain ⟨required, _, resolved, checked⟩ := Act.of_check checked
  simp only [Bool.and_eq_true, decide_eq_true_eq, List.all_eq_true, Bool.not_eq_true',
    List.contains_eq_mem, decide_eq_false_iff_not] at checked
  obtain ⟨⟨⟨⟨analyses, plain⟩, plain'⟩, absent⟩, unreadable⟩ := checked
  obtain ⟨_, _, _, same, _⟩ := Job.of_eq_ok made'
  have left : (j.run.after Exact.spoiled).tree = s₀.tree := by rw [Act.after_of_ok ran]
  let s : Session Nat := Exact.sessionIn s₀.tree
  have past : History (fun _ => True) Exact.spoiled.tree (j.moments Exact.spoiled) s.tree := by
    have first : History (fun _ => True) Exact.spoiled.tree ([] ++ j.moments Exact.spoiled)
        (j.run.after Exact.spoiled).tree :=
      (History.start _).run made plain (fun _ _ => trivial) (Exact.conserves Exact.rooted_host)
    rwa [List.nil_append, left] at first
  have meets : j'.Meets s₁.tree j'.basePlt [.query j'.plt, .query j'.basePlt] := by
    refine .basePlt (fun calls => ?_) fun calls => ?_
    · rw [same]
      exact congrArg (Exact.answer j'.plt) absent
    · rw [same]
      exact congrArg (Exact.answer j'.basePlt) unreadable
  obtain ⟨preserved, -, stops⟩ := plts_after_history past Exact.wellFormed_spoiled made' plain' (fun _ _ => trivial)
    (Exact.conserves Exact.rooted_host)
  obtain ⟨s', failed, requests, -⟩ := stops s₁ required _ _ rfl ⟨output, begun⟩ ⟨_, resolved⟩ meets
  rw [Act.after_of_ok failed] at preserved
  exact ⟨j, j', s, s', made, made', by rw [left], analyses, failed, requests, preserved⟩

end PltKeeper
